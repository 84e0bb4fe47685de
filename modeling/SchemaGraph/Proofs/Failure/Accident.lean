import SchemaGraph.MetaSchema.Drafts
import SchemaGraph.Proofs.Failure.Building

/-! How the check of a document can fail to come to a verdict.

The check of a document breaks off with a fault in two cases only (`Accident`): what the
document names as its meta-schema has no address, or the document holds a text of which
nobody can tell whether it is a regular expression. Nothing else about its values gets in the
way of a verdict (`problem?_error`). -/
namespace SchemaGraph

/-- A text stands somewhere in a value, be it as the name of a member. -/
inductive Json.Mentions : Json → String → Prop where
  | text {text} : Mentions (.str text) text
  | item {items item text} (hitem : item ∈ items) (h : Mentions item text) :
      Mentions (.arr items) text
  | name {members name value} (hmember : (name, value) ∈ members) : Mentions (.obj members) name
  | member {members name value text} (hmember : (name, value) ∈ members)
      (h : Mentions value text) : Mentions (.obj members) text

namespace Json.Mentions

theorem later {items : List Json} {text : String} (h : Mentions (.arr items) text) (item : Json) :
    Mentions (.arr (item :: items)) text := by
  cases h with
  | item hitem h => exact .item (List.mem_cons_of_mem _ hitem) h

theorem more {members : List (String × Json)} {text : String} (h : Mentions (.obj members) text)
    (member : String × Json) : Mentions (.obj (member :: members)) text := by
  cases h with
  | name hmember => exact .name (List.mem_cons_of_mem _ hmember)
  | member hmember h => exact .member (List.mem_cons_of_mem _ hmember) h

theorem of_member? {schema value : Json} {keyword text : String}
    (hmember : schema.member? keyword = some value) (h : Mentions value text) :
    Mentions schema text := by
  cases schema with
  | obj members =>
    obtain ⟨before, rest, hmembers, -⟩ := List.lookup_eq_some_iff.1 hmember
    have hvalue : (keyword, value) ∈ members :=
      hmembers ▸ List.mem_append_right _ List.mem_cons_self
    exact .member hvalue h
  | _ => cases hmember

end Json.Mentions

namespace MetaSchema

/-- A value holds a text that may or may not be a regular expression. -/
inductive Unreadable (value : Json) : Fault → Prop where
  | intro {text flaw} (htext : value.Mentions text) (hcheck : Pattern.check text = .error flaw)
      (hflaw : flaw ≠ .malformed) : Unreadable value (.unreadablePattern flaw)

namespace Unreadable

theorem mono {part value : Json} {fault : Fault} (h : Unreadable part fault)
    (hpart : ∀ text, part.Mentions text → value.Mentions text) : Unreadable value fault := by
  obtain ⟨htext, hcheck, hflaw⟩ := h
  exact ⟨hpart _ htext, hcheck, hflaw⟩

end Unreadable

/-! ### Findings that are faults -/

/-- The faults among the findings come from texts in the value. -/
def Accounts (value : Json) (findings : List Finding) : Prop :=
  ∀ fault, .error fault ∈ findings → Unreadable value fault

namespace Accounts

variable {value : Json}

theorem nil : Accounts value [] := fun _ h => nomatch h

theorem problem (problem : String) : Accounts value [.ok problem] := by
  intro fault h
  cases List.mem_singleton.1 h

theorem append {first second : List Finding} (hfirst : Accounts value first)
    (hsecond : Accounts value second) : Accounts value (first ++ second) := fun fault h =>
  (List.mem_append.1 h).elim (hfirst fault) (hsecond fault)

theorem mono {part : Json} {findings : List Finding} (h : Accounts part findings)
    (hpart : ∀ text, part.Mentions text → value.Mentions text) : Accounts value findings :=
  fun fault hfault => (h fault hfault).mono hpart

theorem reportIf (isBad : Bool) (problem : String) :
    Accounts value (MetaSchema.reportIf isBad problem) := by
  unfold MetaSchema.reportIf
  split
  · exact .problem problem
  · exact .nil

theorem unlessPassed {passed : Except Fault Bool} (problem : String)
    (h : ∀ fault, passed = .error fault → Unreadable value fault) :
    Accounts value (MetaSchema.unlessPassed passed problem) := by
  match passed with
  | .ok true => exact .nil
  | .ok false => exact .problem problem
  | .error fault =>
    intro found hfound
    cases List.mem_singleton.1 hfound
    exact h fault rfl

end Accounts

/-- An alternative that cannot be gone through has a fault among its findings. -/
theorem passes_error {findings : List Finding} {fault : Fault}
    (h : passes findings = .error fault) : .error fault ∈ findings := by
  rcases bind_error h with hall | ⟨problems, -, hnever⟩
  · obtain ⟨finding, hfinding, hfault⟩ := mapM_error hall
    rwa [show finding = .error fault from hfault] at hfinding
  · cases hnever

theorem shallow_accounts (rule : Rule) (value : Json) : Accounts value (rule.shallow value) := by
  unfold Rule.shallow
  split
  case h_8 text =>
    split
    · exact .nil
    · exact .problem _
    · rename_i flaw hflaw hcheck
      intro fault hfault
      cases List.mem_singleton.1 hfault
      exact ⟨.text, hcheck, hflaw⟩
  case h_6 => exact .problem _
  case h_10 => exact .nil
  -- All other branches report a problem on a condition.
  all_goals exact .reportIf _ _

/-! ### The ways through a value

Each loop of the check gives what its body finds, element by element. -/

section Loops

variable {draft : Draft}

theorem checkKeywords_accounts {schema : Json} (keywords : List (String × Rule))
    (h : ∀ value : Json, value.size < schema.size → ∀ rule,
      Accounts value (check draft rule value)) :
    Accounts schema (checkKeywords draft keywords schema) := by
  induction keywords with
  | nil =>
    rw [checkKeywords]
    exact .nil
  | cons head rest ih =>
    obtain ⟨keyword, rule⟩ := head
    rw [checkKeywords]
    split
    · exact ih
    · rename_i value hmember
      have hvalue := h value (Json.size_member?_lt hmember) rule
      exact (hvalue.mono fun text => .of_member? hmember).append ih

theorem checkMembers_accounts {rule : Rule} {members : List (String × Json)}
    (h : ∀ member ∈ members, Accounts member.2 (check draft rule member.2)) :
    Accounts (.obj members) (checkMembers draft rule members) := by
  induction members with
  | nil =>
    rw [checkMembers]
    exact .nil
  | cons head rest ih =>
    obtain ⟨name, value⟩ := head
    obtain ⟨hvalue, hrest⟩ := List.forall_mem_cons.1 h
    rw [checkMembers]
    exact (hvalue.mono fun text => .member List.mem_cons_self).append
      ((ih hrest).mono fun text htext => htext.more _)

theorem checkItems_accounts {rule : Rule} {items : List Json}
    (h : ∀ item ∈ items, Accounts item (check draft rule item)) :
    Accounts (.arr items) (checkItems draft rule items) := by
  induction items with
  | nil =>
    rw [checkItems]
    exact .nil
  | cons item rest ih =>
    obtain ⟨hitem, hrest⟩ := List.forall_mem_cons.1 h
    rw [checkItems]
    exact (hitem.mono fun text => .item List.mem_cons_self).append
      ((ih hrest).mono fun text htext => htext.later _)

theorem checkAll_accounts {value : Json} {rules : List Rule}
    (h : ∀ rule ∈ rules, Accounts value (check draft rule value)) :
    Accounts value (checkAll draft rules value) := by
  induction rules with
  | nil =>
    rw [checkAll]
    exact .nil
  | cons rule rest ih =>
    obtain ⟨hrule, hrest⟩ := List.forall_mem_cons.1 h
    rw [checkAll]
    exact hrule.append (ih hrest)

theorem passesAny_error {value : Json} {rules : List Rule} {fault : Fault}
    (h : ∀ rule ∈ rules, Accounts value (check draft rule value))
    (hfault : passesAny draft rules value = .error fault) : Unreadable value fault := by
  induction rules with
  | nil =>
    rw [passesAny] at hfault
    cases hfault
  | cons rule rest ih =>
    obtain ⟨hrule, hrest⟩ := List.forall_mem_cons.1 h
    rw [passesAny] at hfault
    rcases bind_error hfault with hpasses | ⟨passed, -, hfault⟩
    · exact hrule fault (passes_error hpasses)
    · cases passed with
      | true => cases hfault
      | false => exact ih hrest hfault

end Loops

/-- **What a rule finds** is a problem, or a text that nobody can tell about. The induction is
on the size of the value, for the keywords of a schema, and then on the rule. -/
theorem check_accounts (draft : Draft) (rule : Rule) (value : Json) :
    Accounts value (check draft rule value) := by
  induction hsize : value.size using Nat.strongRecOn generalizing rule value with
  | ind size ihValue =>
  subst hsize
  induction hweight : sizeOf rule using Nat.strongRecOn generalizing rule with
  | ind weight ihRule =>
  subst hweight
  cases rule with
  | schema =>
    rw [check]
    split
    · have hkeywords : Accounts value (checkKeywords draft draft.keywords value) :=
        checkKeywords_accounts _ fun part hpart rule => ihValue _ hpart rule part rfl
      refine hkeywords.append fun fault hfault => ?_
      obtain ⟨need, -, hneed⟩ := List.mem_map.1 hfault
      cases hneed
    · exact .problem _
  | typed choices =>
    rw [check]
    split
    · exact .nil
    · refine .unlessPassed _ fun fault hfault => ?_
      split at hfault
      · refine ihRule _ ?_ .schema rfl fault (passes_error hfault)
        cases choices <;> simp only [Rule.schema.sizeOf_spec, Rule.typed.sizeOf_spec,
          List.nil.sizeOf_spec, List.cons.sizeOf_spec] <;> omega
      · cases hfault
  | names rule =>
    cases value with
    | obj members =>
      rw [check]
      intro fault hfault
      obtain ⟨⟨name, value⟩, hmember, hfound⟩ := List.mem_flatMap.1 hfault
      refine (shallow_accounts rule _ fault hfound).mono fun text htext => ?_
      cases htext
      exact .name hmember
    | _ =>
      rw [check]
      · exact .nil
      · simp
  | items rule =>
    cases value with
    | arr items =>
      rw [check]
      refine checkItems_accounts fun item hitem => ihValue _ ?_ rule item rfl
      rw [Json.size_arr]
      exact Nat.lt_one_add_iff.2 (Json.size_le_sizeItems hitem)
    | _ =>
      rw [check]
      · exact .nil
      · simp
  | members rule =>
    cases value with
    | obj members =>
      rw [check]
      refine checkMembers_accounts fun member hmember => ihValue _ ?_ rule member.2 rfl
      rw [Json.size_obj]
      exact Nat.lt_one_add_iff.2 (Json.size_snd_le_sizeMembers hmember)
    | _ =>
      rw [check]
      · exact .nil
      · simp
  | all rules =>
    rw [check]
    refine checkAll_accounts fun rule hrule => ihRule _ ?_ rule rfl
    have := List.sizeOf_lt_of_mem hrule
    rw [Rule.all.sizeOf_spec]
    omega
  | either rules =>
    rw [check]
    refine .unlessPassed _ fun fault => passesAny_error fun rule hrule => ihRule _ ?_ rule rfl
    have := List.sizeOf_lt_of_mem hrule
    rw [Rule.either.sizeOf_spec]
    omega
  | _ =>
    rw [check]
    · exact shallow_accounts _ value
    all_goals simp

/-! ### Documents -/

/-- Why the check of a document fails to come to a verdict. -/
inductive Accident (document : Json) : Fault → Prop where
  /-- What the document names as its meta-schema has no address. -/
  | address {address fault} (haddress : document.member? "$schema" = some address)
      (h : draftAt address = .error fault) : Accident document fault
  | text {fault} (h : Unreadable document fault) : Accident document fault

/-- **A check that breaks off** does so by one of the two accidents. -/
theorem problem?_error {members : List (String × Json)} {fault : Fault}
    (h : problem? (.obj members) = .error fault) : Accident (.obj members) fault := by
  rcases bind_error h with hdraft | ⟨draft, -, hcheck⟩
  · unfold draftOf at hdraft
    cases haddress : Json.member? "$schema" (.obj members) with
    | none =>
      simp only [haddress] at hdraft
      cases hdraft
    | some address =>
      simp only [haddress] at hdraft
      exact .address haddress hdraft
  · have haccounts := check_accounts draft .schema (.obj members)
    cases hfindings : check draft .schema (.obj members) with
    | nil =>
      rw [hfindings] at hcheck
      cases hcheck
    | cons finding rest =>
      rw [hfindings] at hcheck haccounts
      cases finding with
      | ok problem => cases hcheck
      | error found =>
        cases hcheck
        exact .text (haccounts fault List.mem_cons_self)

end MetaSchema
end SchemaGraph

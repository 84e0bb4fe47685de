import Mathlib.Data.List.Induction
import Mathlib.Data.List.Nodup
import SchemaGraph.Proofs.Graph.Naming

/-! The values that the literals of an enum give.

Literals are stored one by one, and a later one takes the place of an earlier one of its
key. As long as no literal meets a different one under its key, the table has the keys in
the order in which they first occur and under each of them the last literal that has it
(`IsTableOf`); one literal more keeps it so (`IsTableOf.addValue`), or else differs from
what is stored, which is a literal before it (`IsTableOf.addValue_error`). Only the literal
met last is compared with, but all before it under that key are equal to it, so nothing is
overlooked: an enum is refused just if two literals that differ have one key, and otherwise
every literal equals what is stored under its key (`Build.buildEnum_literals`). -/
namespace SchemaGraph

/-! ### Keys as they first occur -/

theorem eraseDups_concat_of_mem {keys : List String} {key : String} (h : key ∈ keys) :
    (keys ++ [key]).eraseDups = keys.eraseDups := by
  rw [List.eraseDups_append, List.removeAll, List.filter_cons_of_neg (by simp [h])]
  exact List.append_nil _

theorem eraseDups_concat_of_notMem {keys : List String} {key : String} (h : key ∉ keys) :
    (keys ++ [key]).eraseDups = keys.eraseDups ++ [key] := by
  rw [List.eraseDups_append, List.removeAll, List.filter_cons_of_pos (by simp [h])]
  rfl

theorem nodup_eraseDups (keys : List String) : keys.eraseDups.Nodup := by
  induction keys using List.reverseRecOn with
  | nil => exact .nil
  | append_singleton keys key ih =>
    by_cases hkey : key ∈ keys
    · rwa [eraseDups_concat_of_mem hkey]
    · rw [eraseDups_concat_of_notMem hkey, List.nodup_append]
      refine ⟨ih, List.nodup_singleton _, fun other hother last hlast heq => hkey ?_⟩
      rwa [← List.mem_singleton.1 hlast, ← heq, ← List.mem_eraseDups]

/-! ### One literal more -/

/-- The values under keys that are the literals' in order, each with the last of its literals. -/
structure IsTableOf (literals : List Json) (values : List (String × Json)) : Prop where
  keys : values.map Prod.fst = (literals.map Name.enumKey).eraseDups
  stored : ∀ key, values.lookup key = literals.reverse.find? (Name.enumKey · == key)

/-- A literal and a later one that differs and has its key. -/
structure LiteralsClash (literals : List Json) (first second : Json) : Prop where
  inOrder : [first, second].Sublist literals
  key : Name.enumKey first = Name.enumKey second
  differ : first.equal second = false

theorem LiteralsClash.append {literals : List Json} {first second : Json}
    (h : LiteralsClash literals first second) (more : List Json) :
    LiteralsClash (literals ++ more) first second :=
  ⟨h.inOrder.trans (List.sublist_append_left literals more), h.key, h.differ⟩

/-- Literals are clear just if none of them clash. -/
theorem hasClearValues_iff {literals : List Json} :
    HasClearValues literals ↔ ¬ ∃ first second, LiteralsClash literals first second := by
  rw [HasClearValues, List.pairwise_iff_forall_sublist]
  constructor
  · rintro h ⟨first, second, hclash⟩
    have hequal := h hclash.inOrder hclash.key
    rw [hclash.differ] at hequal
    cases hequal
  · intro h first second hsub hkey
    by_contra hdiffer
    exact h ⟨first, second, hsub, hkey, Bool.eq_false_iff.2 hdiffer⟩

/-- A new key comes last; one that was seen stays where it is. -/
theorem keys_addValue {owner : String} {values after : List (String × Json)} {literal : Json}
    (h : addValue owner values literal = .ok after) :
    (values.lookup (Name.enumKey literal) = none ∧
      after.map Prod.fst = values.map Prod.fst ++ [Name.enumKey literal]) ∨
    ((values.lookup (Name.enumKey literal)).isSome ∧
      after.map Prod.fst = values.map Prod.fst) := by
  simp only [addValue] at h
  cases hfound : values.lookup (Name.enumKey literal) with
  | none =>
    rw [hfound] at h
    cases h
    exact .inl ⟨rfl, List.map_append⟩
  | some stored =>
    rw [hfound] at h
    simp only at h
    split at h <;> cases h
    refine .inr ⟨rfl, ?_⟩
    rw [List.map_map]
    refine List.map_congr_left fun entry _ => ?_
    simp only [Function.comp_apply]
    split <;> rfl

namespace IsTableOf

variable {owner : String} {literals : List Json} {values : List (String × Json)}

theorem nil : IsTableOf [] [] := ⟨rfl, fun _ => rfl⟩

theorem mem_keys (h : IsTableOf literals values) {key : String} :
    key ∈ values.map Prod.fst ↔ (values.lookup key).isSome = true := by
  rw [h.keys, List.mem_eraseDups, List.mem_map, h.stored, List.find?_isSome]
  simp only [List.mem_reverse, beq_iff_eq]

/-- One literal more that is accepted keeps a table one. -/
theorem addValue (h : IsTableOf literals values) {literal : Json} {after : List (String × Json)}
    (hadd : SchemaGraph.addValue owner values literal = .ok after) :
    IsTableOf (literals ++ [literal]) after := by
  have hstored (key : String) : after.lookup key =
      (literals ++ [literal]).reverse.find? (Name.enumKey · == key) := by
    rw [lookup_addValue hadd, List.reverse_append, List.reverse_singleton, List.singleton_append,
      List.find?_cons]
    by_cases hkey : key = Name.enumKey literal
    · simp [hkey]
    · simp [beq_false_of_ne (Ne.symm hkey), hkey, h.stored]
  have hkey : Name.enumKey literal ∈ literals.map Name.enumKey ↔
      (values.lookup (Name.enumKey literal)).isSome = true := by
    rw [← h.mem_keys, h.keys, List.mem_eraseDups]
  refine ⟨?_, hstored⟩
  rw [List.map_append, List.map_singleton]
  rcases keys_addValue hadd with ⟨hnew, hkeys⟩ | ⟨hseen, hkeys⟩
  · rw [hnew] at hkey
    rw [eraseDups_concat_of_notMem (fun hmem => nomatch hkey.1 hmem), hkeys, h.keys]
  · rw [eraseDups_concat_of_mem (hkey.2 hseen), hkeys, h.keys]

/-- A literal that is refused differs from one before it. -/
theorem addValue_error (h : IsTableOf literals values) {literal : Json} {fault : Fault}
    (hadd : SchemaGraph.addValue owner values literal = .error fault) :
    ∃ first, LiteralsClash (literals ++ [literal]) first literal ∧
      fault = .valueClash first literal (Name.enumKey literal) owner := by
  simp only [SchemaGraph.addValue] at hadd
  cases hfound : values.lookup (Name.enumKey literal) with
  | none =>
    rw [hfound] at hadd
    cases hadd
  | some stored =>
    rw [hfound] at hadd
    simp only at hadd
    split at hadd <;> cases hadd
    rename_i hdiffer
    rw [h.stored] at hfound
    have hkey := List.find?_some hfound
    refine ⟨stored, ⟨?_, beq_iff_eq.1 hkey, Bool.eq_false_iff.2 hdiffer⟩, rfl⟩
    have hmem := List.mem_reverse.1 (List.mem_of_find?_eq_some hfound)
    exact (List.singleton_sublist.2 hmem).append (.refl [literal])

/-! ### All literals -/

/-- Storing literals gives a table of all, or meets two that clash. -/
theorem foldlM (h : IsTableOf literals values) (owner : String) (more : List Json) :
    (∃ after, more.foldlM (SchemaGraph.addValue owner) values = .ok after ∧
      IsTableOf (literals ++ more) after) ∨
    ∃ first second, LiteralsClash (literals ++ more) first second ∧
      more.foldlM (SchemaGraph.addValue owner) values =
        .error (.valueClash first second (Name.enumKey second) owner) := by
  induction more generalizing literals values with
  | nil =>
    rw [List.append_nil]
    exact .inl ⟨values, rfl, h⟩
  | cons literal more ih =>
    rw [List.foldlM_cons, List.append_cons]
    cases hadd : SchemaGraph.addValue owner values literal with
    | ok next => exact ih (h.addValue hadd)
    | error fault =>
      obtain ⟨first, hclash, rfl⟩ := h.addValue_error hadd
      exact .inr ⟨first, literal, hclash.append more, rfl⟩

/-- Every literal has a value under its key, which is the same as the literal or equal to it. -/
theorem exists_stored (h : IsTableOf literals values) (hclear : HasClearValues literals)
    {literal : Json} (hliteral : literal ∈ literals) :
    ∃ stored, values.lookup (Name.enumKey literal) = some stored ∧
      (literal = stored ∨ literal.equal stored = true) := by
  have hkey : (values.lookup (Name.enumKey literal)).isSome = true := by
    rw [h.stored, List.find?_isSome]
    exact ⟨literal, List.mem_reverse.2 hliteral, beq_self_eq_true _⟩
  obtain ⟨stored, hstored⟩ := Option.isSome_iff_exists.1 hkey
  refine ⟨stored, hstored, ?_⟩
  rw [h.stored, List.find?_eq_some_iff_append] at hstored
  obtain ⟨hsame, later, earlier, hsplit, hlater⟩ := hstored
  have hmem : literal ∈ later ++ stored :: earlier := hsplit ▸ List.mem_reverse.2 hliteral
  rcases List.mem_append.1 hmem with hmem | hmem
  · have hother := hlater literal hmem
    simp at hother
  · rcases List.mem_cons.1 hmem with rfl | hmem
    · exact .inl rfl
    · -- The literal comes before the one that is stored, so the two do not clash.
      have hclear' := hclear
      rw [HasClearValues, ← List.pairwise_reverse, hsplit, List.pairwise_append,
        List.pairwise_cons] at hclear'
      exact .inr (hclear'.2.1.1 literal hmem (beq_iff_eq.1 hsame).symm)

/-- What is stored is one of the literals. -/
theorem mem_of_mem (h : IsTableOf literals values) {entry : String × Json}
    (hentry : entry ∈ values) : entry.2 ∈ literals := by
  have hnodup : (values.map Prod.fst).Nodup := h.keys ▸ nodup_eraseDups _
  have hlookup := Json.lookup_of_nodup hnodup hentry
  rw [h.stored] at hlookup
  exact List.mem_reverse.1 (List.mem_of_find?_eq_some hlookup)

end IsTableOf

/-! ### The enum -/

namespace Setting

/-- Without a customizer, an enum of texts is its values under the name of its position, if that
may be the name of a type. -/
theorem enumOf_text (emptyField : Json) (name : String) (site : Site) (literals : List Json)
    (key : Nat) : ({ emptyField } : Setting).enumOf name site literals (.str "string") key =
      enumValues name literals >>= fun values =>
        (checkName false (.str name)).map fun name =>
          GraphType.enum (.plain key name site) (.ofValues values) := by
  have hbase : (Json.str "string").equal (.str "string") = true := Json.equal_str_iff.2 rfl
  rw [enumOf, valuesOf, if_pos hbase, draft_plain]
  cases enumValues name literals with
  | error fault => rfl
  | ok values =>
    show (Draft.info _ key >>= _) = _
    unfold Draft.info Build.checkDraft
    rcases checkName false (.str name) with fault | other <;> rfl

end Setting

namespace Build

/-- The outcome of an enum of texts is that of its values, and then that of its name. -/
theorem buildEnum_text (emptyField : Json) (name : String) (site : Site) (literals : List Json)
    (registry : Registry) :
    ((buildEnum { emptyField } name site literals (.str "string")).on registry).1 =
      enumValues name literals >>= fun values =>
        (checkName false (.str name)).map fun name =>
          GraphType.enum (.plain registry.nextKey name site) (.ofValues values) := by
  obtain ⟨journal, hrun⟩ :=
    buildEnum_on { emptyField } name site literals (.str "string") registry
  rw [hrun, ← Setting.enumOf_text emptyField]
  cases Setting.enumOf _ _ _ _ _ _ <;> rfl

/-- What is refused for its name is not refused for its values. -/
theorem map_checkName_ne_valueClash {α : Type} {name : String} {make : String → α}
    {first second : Json} {key owner : String} :
    (checkName false (.str name)).map make ≠ .error (.valueClash first second key owner) := by
  have hkey : (Json.str name).isKey = true := rfl
  by_cases hreserved : name ∈ reservedNames <;> cases hflaw : Name.flaw? name <;>
    simp [checkName, hkey, hreserved, hflaw, pure, Except.pure, throw, throwThe,
      MonadExceptOf.throw, bind, Except.bind, Except.map]

/-- What is made under a name that a type may have is made; under any other it is refused for the
name. -/
theorem map_checkName {α : Type} (name : String) (make : String → α) :
    (name ∉ reservedNames ∧ Name.flaw? name = none →
      (checkName false (.str name)).map make = .ok (make name)) ∧
    (¬ (name ∉ reservedNames ∧ Name.flaw? name = none) →
      ∃ fault, checkName false (.str name) = .error fault ∧
        (checkName false (.str name)).map make = .error fault) := by
  constructor
  · intro hname
    rw [checkName_iff.2 ⟨hname, rfl⟩]
    rfl
  · intro hname
    cases hcheck : checkName false (.str name) with
    | ok other => exact absurd (checkName_iff.1 hcheck).1 hname
    | error fault => exact ⟨fault, rfl, rfl⟩

/-- **The values of an enum are never lost or merged.** An enum of texts is refused for its
literals just if two of them differ and have one key. Otherwise its keys are those of its
literals, in the order in which they first occur; every literal equals what is stored under its
key, unless it is not-a-number, which is stored as it is; and nothing else is stored. If the name
of its position may be the name of a type, then the enum is made of these values, and if not, the
name is what it is refused for. -/
theorem buildEnum_literals (emptyField : Json) (name : String) (site : Site)
    (literals : List Json) (registry : Registry) :
    let result := ((buildEnum { emptyField } name site literals (.str "string")).on registry).1
    ((∃ first second key owner, result = .error (.valueClash first second key owner)) ↔
      ∃ first second, LiteralsClash literals first second) ∧
    (∀ first second key owner, result = .error (.valueClash first second key owner) →
      LiteralsClash literals first second ∧ key = Name.enumKey second ∧ owner = name) ∧
    ((¬ ∃ first second, LiteralsClash literals first second) → ∃ values,
      values.map Prod.fst = (literals.map Name.enumKey).eraseDups ∧
      (values.map Prod.fst).Nodup ∧
      (∀ literal ∈ literals, ∃ stored, values.lookup (Name.enumKey literal) = some stored ∧
        (literal = stored ∨ literal.equal stored = true) ∧
        (literal.IsUnambiguous → literal.isNan = false → literal.equal stored = true)) ∧
      (∀ entry ∈ values, entry.2 ∈ literals) ∧
      (name ∉ reservedNames ∧ Name.flaw? name = none →
        result = .ok (.enum (.plain registry.nextKey name site) (.ofValues values))) ∧
      (¬ (name ∉ reservedNames ∧ Name.flaw? name = none) →
        ∃ fault, checkName false (.str name) = .error fault ∧ result = .error fault)) := by
  intro result
  have hresult : result = _ := buildEnum_text emptyField name site literals registry
  rcases IsTableOf.nil.foldlM name literals with
    ⟨values, hvalues, htable⟩ | ⟨first, second, hclash, hvalues⟩
  · have hvalues : enumValues name literals = .ok values := hvalues
    have hclear : HasClearValues literals := enumValues_ok_iff.1 ⟨values, hvalues⟩
    rw [List.nil_append] at htable
    rw [hvalues, ok_bind] at hresult
    have hother (first second key owner) :
        result ≠ .error (.valueClash first second key owner) := by
      rw [hresult]
      exact map_checkName_ne_valueClash
    refine ⟨iff_of_false (fun ⟨_, _, _, _, h⟩ => hother _ _ _ _ h) (hasClearValues_iff.1 hclear),
      fun _ _ _ _ h => absurd h (hother _ _ _ _), fun _ => ?_⟩
    refine ⟨values, htable.keys, htable.keys ▸ nodup_eraseDups _, fun literal hliteral => ?_,
      fun _ => htable.mem_of_mem, ?_⟩
    · obtain ⟨stored, hstored, hequal⟩ := htable.exists_stored hclear hliteral
      refine ⟨stored, hstored, hequal, fun hunambiguous hnan => ?_⟩
      rcases hequal with rfl | hequal
      · exact hunambiguous.equal_refl hnan
      · exact hequal
    · rw [hresult]
      exact map_checkName name _
  · have hvalues : enumValues name literals = .error _ := hvalues
    rw [List.nil_append] at hclash
    rw [hvalues] at hresult
    refine ⟨iff_of_true ⟨_, _, _, _, hresult⟩ ⟨first, second, hclash⟩, ?_,
      fun hnone => absurd ⟨first, second, hclash⟩ hnone⟩
    intro _ _ _ _ hfault
    rw [hresult] at hfault
    cases hfault
    exact ⟨hclash, rfl, rfl⟩

/-- The two zeros are equal and share a key; the texts `b c` and `b-c` differ and share one. -/
theorem buildEnum_literals_zeros :
    let zero (negative : Bool) : Json := .float (.finite negative 0)
    let build (literals : List Json) :=
      ((buildEnum {} "A" { path := "#" } literals (.str "string")).on .empty).1
    (∃ info values stored,
      build [zero true, .str "b-c", zero false] = .ok (.enum info (.ofValues values)) ∧
      values.map Prod.fst = ["_0_0", "b_c"] ∧ values.lookup "_0_0" = some stored ∧
      (zero true).equal stored = true) ∧
    ∃ first second key owner,
      build [.str "b c", .str "b-c"] = .error (.valueClash first second key owner) := by
  intro zero build
  have hclear : HasClearValues [zero true, .str "b-c", zero false] := by
    unfold HasClearValues
    decide +kernel
  constructor
  · obtain ⟨-, -, hvalues⟩ := buildEnum_literals (.str "_empty") "A" { path := "#" }
      [zero true, .str "b-c", zero false] .empty
    obtain ⟨values, hkeys, -, hstored, -, hresult, -⟩ := hvalues (hasClearValues_iff.1 hclear)
    obtain ⟨stored, hlookup, -, hequal⟩ := hstored (zero true) List.mem_cons_self
    rw [show Name.enumKey (zero true) = "_0_0" by decide +kernel] at hlookup
    exact ⟨_, values, stored, hresult ⟨by decide, by decide +kernel⟩,
      hkeys.trans (by decide +kernel), hlookup, hequal (.scalar rfl) rfl⟩
  · obtain ⟨hclash, -, -⟩ := buildEnum_literals (.str "_empty") "A" { path := "#" }
      [.str "b c", .str "b-c"] .empty
    exact hclash.2 ⟨.str "b c", .str "b-c", .refl _, by decide +kernel, by decide +kernel⟩

/-- The literal `a` clashes with nothing, but there is no enum of it at a position whose name is
reserved. -/
theorem buildEnum_reserved :
    (¬ ∃ first second, LiteralsClash [.str "a"] first second) ∧
      ((buildEnum {} "String" { path := "#" } [.str "a"] (.str "string")).on .empty).1 =
        .error (.reservedType "String") := by
  refine ⟨hasClearValues_iff.1 (List.pairwise_singleton _ _), ?_⟩
  rw [buildEnum_text (.str "_empty")]
  rfl

end Build
end SchemaGraph

import SchemaGraph.Proofs.Graph.Work
import SchemaGraph.Proofs.Json.Equality
import SchemaGraph.Proofs.Name.Letters

/-! Which types can be made.

Whether a named type can be made does not depend on its key (`Setting.Makes`). If there is
no customizer, then it depends on nothing but the name, and nothing about the type is
left open (`Setting.info_plain_iff`). Names in camel case are legal unless they are
empty, so there a name only has to be free (`Name.IsFree`). -/
namespace SchemaGraph
namespace Name

/-- A name that the position of a shape can give to a type. -/
def IsFree (name : String) : Prop := name ≠ "" ∧ name ∉ reservedNames

instance (name : String) : Decidable (IsFree name) := by
  unfold IsFree
  infer_instance

theorem isAlphanum_of_mem_camel {previous : Option Char} {text : List Char} {c : Char}
    (h : c ∈ camel previous text) : c.isAlphanum = true := by
  induction text generalizing previous with
  | nil => cases h
  | cons first rest ih =>
    rw [camel] at h
    split at h
    · rename_i hfirst
      rcases List.mem_cons.1 h with rfl | h
      · split
        · exact isAlphanum_toUpper hfirst
        · exact isAlphanum_toLower hfirst
      · exact ih h
    · exact ih h

/-- Letters and digits are a legal name once no digit is in front. -/
theorem isLegal_guardDigit {name : List Char} (hname : ∀ c ∈ name, c.isAlphanum = true)
    (hne : name ≠ []) : isLegal (guardDigit name) = true := by
  have hparts : name.all isPart = true := by
    rw [List.all_eq_true]
    intro c hc
    rw [isPart, hname c hc, Bool.true_or]
  unfold guardDigit
  cases name with
  | nil => exact absurd rfl hne
  | cons c rest =>
    by_cases hdigit : c.isDigit = true
    · simp only [List.head?_cons, Option.any_some, hdigit, if_true, isLegal, hparts, isStart,
        Bool.and_true]
      decide
    · have hc : c.isAlphanum = true := hname c List.mem_cons_self
      simp only [List.head?_cons, Option.any_some, hdigit, isLegal, isStart]
      simp only [List.all_cons, Bool.and_eq_true] at hparts
      simp [isAlphanum_eq, hdigit] at hc
      simp [hc, hparts.2]

/-- A name in camel case is legal if it is one at all. -/
theorem flaw?_typeName {text : String} (h : typeName text ≠ "") :
    flaw? (typeName text) = none := by
  rw [flaw?_eq_none_iff, typeName, String.toList_ofList]
  refine isLegal_guardDigit (fun c => isAlphanum_of_mem_camel) fun hnil => h ?_
  rw [typeName, hnil]
  rfl

end Name

/-! ### The values of an enum -/

/-- No two literals that differ have one key. -/
def HasClearValues (literals : List Json) : Prop :=
  literals.Pairwise fun a b => Name.enumKey a = Name.enumKey b → a.equal b = true

/-- Replacing what is stored under a key changes the look-up of no other key. -/
theorem lookup_replace (values : List (String × Json)) (key other : String) (literal : Json) :
    (values.map fun (k, v) => if k == key then (k, literal) else (k, v)).lookup other =
      if other = key then (values.lookup other).map fun _ => literal else values.lookup other := by
  induction values with
  | nil => simp
  | cons head rest ih =>
    obtain ⟨k, v⟩ := head
    by_cases hk : k = key <;> by_cases hother : other = k <;> grind

theorem lookup_addValue {owner : String} {values after : List (String × Json)} {literal : Json}
    (h : addValue owner values literal = .ok after) (key : String) :
    after.lookup key = if key = Name.enumKey literal then some literal else values.lookup key := by
  simp only [addValue] at h
  cases hstored : values.lookup (Name.enumKey literal) with
  | none =>
    rw [hstored] at h
    cases h
    by_cases hkey : key = Name.enumKey literal
    · simp [List.lookup_append, hkey, hstored]
    · simp [List.lookup_append, List.lookup_cons, beq_false_of_ne hkey, hkey]
  | some stored =>
    rw [hstored] at h
    simp only at h
    split at h <;> cases h
    rw [lookup_replace]
    by_cases hkey : key = Name.enumKey literal <;> simp [hkey, hstored]

/-- A literal is added just if it equals what was stored under its key. -/
theorem addValue_ok_iff {owner : String} {values : List (String × Json)} {literal : Json} :
    (∃ after, addValue owner values literal = .ok after) ↔
      ∀ stored, values.lookup (Name.enumKey literal) = some stored →
        stored.equal literal = true := by
  simp only [addValue]
  cases values.lookup (Name.enumKey literal) with
  | none => simp
  | some stored => by_cases hequal : stored.equal literal = true <;> simp [hequal]

/-- If literals are clear, then one more is if it equals the newest of its key. -/
theorem HasClearValues.concat_iff {done : List Json} {literal : Json}
    (h : HasClearValues done.reverse) :
    HasClearValues (done.reverse ++ [literal]) ↔
      ∀ stored, done.find? (Name.enumKey · == Name.enumKey literal) = some stored →
        stored.equal literal = true := by
  unfold HasClearValues at h ⊢
  rw [List.pairwise_append, List.pairwise_reverse] at *
  constructor
  · intro ⟨_, _, hclear⟩ stored hstored
    have hkey := List.find?_some hstored
    exact hclear stored (List.mem_reverse.2 (List.mem_of_find?_eq_some hstored)) literal
      List.mem_cons_self (beq_iff_eq.1 hkey)
  · intro hnewest
    refine ⟨h, List.pairwise_singleton _ _, fun old hold last hlast hkey => ?_⟩
    rw [List.mem_singleton.1 hlast] at hkey ⊢
    have hold : old ∈ done := List.mem_reverse.1 hold
    have hsome : (done.find? (Name.enumKey · == Name.enumKey literal)).isSome :=
      List.find?_isSome.2 ⟨old, hold, by simp [hkey]⟩
    obtain ⟨stored, hstored⟩ := Option.isSome_iff_exists.1 hsome
    have hequal := hnewest stored hstored
    obtain ⟨hkey', newer, older, rfl, hnewer⟩ := List.find?_eq_some_iff_append.1 hstored
    rcases List.mem_append.1 hold with hmem | hmem
    · have := hnewer old hmem
      simp [hkey] at this
    · rcases List.mem_cons.1 hmem with rfl | hmem
      · exact hequal
      · -- An older literal equals the newest one of the key, which equals the new one.
        have holder := (List.pairwise_cons.1 (List.pairwise_append.1 h).2.1).1 old hmem
        exact Json.equal_trans (holder (hkey.trans (beq_iff_eq.1 hkey').symm)) hequal

/-- Adding literals to those in `done`, which are listed from the newest on. -/
theorem foldlM_addValue_ok_iff {owner : String} {values : List (String × Json)}
    {done literals : List Json}
    (hvalues : ∀ key, values.lookup key = done.find? (Name.enumKey · == key))
    (hdone : HasClearValues done.reverse) :
    (∃ after, literals.foldlM (addValue owner) values = .ok after) ↔
      HasClearValues (done.reverse ++ literals) := by
  induction literals generalizing values done with
  | nil =>
    rw [List.append_nil]
    exact iff_of_true ⟨values, rfl⟩ hdone
  | cons literal rest ih =>
    have hstep : (∃ after, addValue owner values literal = .ok after) ↔
        HasClearValues (done.reverse ++ [literal]) := by
      rw [addValue_ok_iff, hdone.concat_iff, hvalues]
    rw [List.foldlM_cons]
    cases hadded : addValue owner values literal with
    | error fault =>
      refine iff_of_false (fun ⟨_, h⟩ => nomatch h) fun hclear => ?_
      have hsub : List.Sublist (done.reverse ++ [literal]) (done.reverse ++ literal :: rest) :=
        .append (.refl _) (.cons_cons _ (List.nil_sublist rest))
      obtain ⟨after, hafter⟩ := hstep.2 (List.Pairwise.sublist hsub hclear)
      rw [hadded] at hafter
      cases hafter
    | ok after =>
      have hclear := hstep.1 ⟨after, hadded⟩
      rw [← List.reverse_cons] at hclear
      rw [List.append_cons, ← List.reverse_cons]
      refine ih (fun key => ?_) hclear
      rw [lookup_addValue hadded, List.find?_cons]
      by_cases hkey : key = Name.enumKey literal
      · simp [hkey]
      · simp [beq_false_of_ne (Ne.symm hkey), hkey, hvalues]

/-- The literals of an enum give it values just if no two that differ have one key. -/
theorem enumValues_ok_iff {owner : String} {literals : List Json} :
    (∃ values, enumValues owner literals = .ok values) ↔ HasClearValues literals := by
  have hempty (key : String) : List.lookup key ([] : List (String × Json)) =
      ([] : List Json).find? (Name.enumKey · == key) := rfl
  exact foldlM_addValue_ok_iff hempty .nil

/-! ### Making a named type -/

theorem checkName_iff {text name : String} :
    checkName false (.str text) = .ok name ↔
      (text ∉ reservedNames ∧ Name.flaw? text = none) ∧ name = text := by
  have hkey : (Json.str text).isKey = true := rfl
  simp only [checkName, hkey, Bool.not_true]
  by_cases hreserved : text ∈ reservedNames <;> cases hflaw : Name.flaw? text <;>
    simp [hreserved, pure, Except.pure, throw, throwThe, MonadExceptOf.throw, bind,
      Except.bind, eq_comm]

theorem Build.checkDraft_plain_iff {text name : String} {description : Json} :
    checkDraft { name := .str text, description } = .ok name ↔
      (text ∉ reservedNames ∧ Name.flaw? text = none) ∧ name = text := by
  rw [← checkName_iff]
  unfold checkDraft
  rcases checkName false (.str text) with fault | other <;> exact Iff.rfl

/-- The common part of a named type that nothing was changed about. -/
def TypeInfo.plain (key : Nat) (name : String) (site : Site) : TypeInfo :=
  { key, name, description := describe site.title site.description, extensions := .null }

theorem Draft.info_plain_iff {name : String} {site : Site} {key : Nat} {info : TypeInfo} :
    ({ name := .str name, description := describe site.title site.description } : Draft).info
      key = .ok info ↔
      (name ∉ reservedNames ∧ Name.flaw? name = none) ∧ info = .plain key name site := by
  constructor
  · intro h
    obtain ⟨text, htext, h⟩ := bind_ok h
    obtain ⟨hname, rfl⟩ := Build.checkDraft_plain_iff.1 htext
    cases h
    exact ⟨hname, rfl⟩
  · rintro ⟨hname, rfl⟩
    unfold info
    rw [Build.checkDraft_plain_iff.2 ⟨hname, rfl⟩]
    rfl

namespace Setting

/-- Types of this form, name and site can be made. -/
def Makes (setting : Setting) (form? : Option TypeForm) (name : String) (site : Site) : Prop :=
  ∃ key info, setting.info form? name site key = .ok info

theorem draft_plain (emptyField : Json) (form? : Option TypeForm) (name : String)
    (site : Site) : ({ emptyField } : Setting).draft form? name site =
      .ok { name := .str name, description := describe site.title site.description } := by
  cases form? <;> rfl

theorem info_plain_iff {emptyField : Json} {form? : Option TypeForm} {name : String}
    {site : Site} {key : Nat} {info : TypeInfo} :
    ({ emptyField } : Setting).info form? name site key = .ok info ↔
      (name ∉ reservedNames ∧ Name.flaw? name = none) ∧ info = .plain key name site := by
  unfold Setting.info
  rw [draft_plain]
  exact Draft.info_plain_iff

variable {setting : Setting} {form? : Option TypeForm} {name : String} {site : Site}

theorem Makes.info_eq (h : setting.Makes form? name site) (key : Nat) :
    ∃ info, setting.info form? name site key = .ok info := by
  obtain ⟨_, _, h⟩ := h
  obtain ⟨draft, hdraft, h⟩ := bind_ok h
  obtain ⟨text, htext, -⟩ := bind_ok h
  unfold Setting.info Draft.info
  rw [hdraft]
  simp only [bind, Except.bind, htext]
  exact ⟨_, rfl⟩

/-- Without a customizer, the type at a position can be made just if its name is free. -/
theorem makes_plain_iff {emptyField : Json} {position : String} :
    ({ emptyField } : Setting).Makes form? (Name.typeName position) site ↔
      Name.IsFree (Name.typeName position) := by
  constructor
  · rintro ⟨key, info, h⟩
    obtain ⟨⟨hreserved, hflaw⟩, -⟩ := info_plain_iff.1 h
    refine ⟨fun hempty => ?_, hreserved⟩
    rw [hempty] at hflaw
    cases hflaw
  · rintro ⟨hempty, hreserved⟩
    exact ⟨0, _, info_plain_iff.2 ⟨⟨hreserved, Name.flaw?_typeName hempty⟩, rfl⟩⟩

/-! ### Making an enum -/

variable {literals : List Json} {base : Json}

/-- Just enums of texts have values, if these have keys of their own. -/
theorem valuesOf_ok_iff : (∃ values, valuesOf name literals base = .ok values) ↔
    base = .str "string" ∧ HasClearValues literals := by
  unfold valuesOf
  rw [← Json.equal_str_iff]
  split
  · rename_i hbase
    rw [enumValues_ok_iff]
    exact (and_iff_right hbase).symm
  · rename_i hbase
    exact iff_of_false (fun ⟨_, h⟩ => nomatch h) fun h => hbase h.1

/-- An enum can be made of its values just if they have keys and the type can be made. -/
theorem enumOf_ok_iff {key : Nat} :
    (∃ type, setting.enumOf name site literals base key = .ok type) ↔
      (∃ values, valuesOf name literals base = .ok values) ∧
        setting.Makes (some .enum) name site := by
  constructor
  · rintro ⟨type, h⟩
    obtain ⟨values, hvalues, h⟩ := bind_ok h
    obtain ⟨draft, hdraft, h⟩ := bind_ok h
    obtain ⟨info, hinfo, -⟩ := bind_ok h
    refine ⟨⟨values, hvalues⟩, key, info, ?_⟩
    unfold Setting.info
    rw [hdraft]
    exact hinfo
  · rintro ⟨⟨values, hvalues⟩, hmakes⟩
    obtain ⟨info, hinfo⟩ := hmakes.info_eq key
    obtain ⟨draft, hdraft, hinfo⟩ := bind_ok hinfo
    unfold enumOf
    rw [hvalues, hdraft]
    simp only [bind, Except.bind, hinfo]
    exact ⟨_, rfl⟩

/-- Without a customizer, an enum has the values of its literals. -/
theorem enumOf_plain {emptyField : Json} {key : Nat} {type : GraphType}
    (h : ({ emptyField } : Setting).enumOf name site literals base key = .ok type) :
    ∃ values, enumValues name literals = .ok values ∧
      type = .enum (.plain key name site) (.ofValues values) := by
  obtain ⟨values, hvalues, h⟩ := bind_ok h
  obtain ⟨draft, hdraft, h⟩ := bind_ok h
  obtain ⟨info, hinfo, h⟩ := bind_ok h
  rw [draft_plain] at hdraft
  cases hdraft
  obtain ⟨-, rfl⟩ := Draft.info_plain_iff.1 hinfo
  cases h
  unfold valuesOf at hvalues
  split at hvalues
  · exact ⟨values, hvalues, rfl⟩
  · cases hvalues

end Setting
end SchemaGraph

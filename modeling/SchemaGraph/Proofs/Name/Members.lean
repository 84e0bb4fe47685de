import SchemaGraph.Graph.Catalog
import SchemaGraph.Proofs.Failure.Compiling

/-! Names of fields and values.

A field is named after its property and an enum value after its literal. The names are
made to be legal, and they are, but for one kind of text: a legal name with a line feed
behind it passes for a name and stays as it is (`EndsLine`). Everything else that is no
name is changed into one. So whoever reads the fields and values that were built finds
no illegal name, unless a property or a literal is such a text (`safe_names`). -/
namespace SchemaGraph

/-! ### Texts and literals -/

namespace Name

theorem isLegal_safe_iff {text : String} :
    isLegal (safe text).toList = true ↔ ¬ EndsLine text.toList := by
  rw [← flaw?_eq_none_iff, flaw?_safe_eq_none_iff]

/-- Only what passes for a name stays as it is. -/
theorem safe_eq_self_iff {text : String} :
    safe text = text ↔ isLegal text.toList = true ∨ EndsLine text.toList := by
  constructor
  · intro hsame
    refine or_iff_not_imp_right.2 fun hends => ?_
    rw [← hsame]
    exact isLegal_safe_iff.2 hends
  · intro h
    rw [safe, safeChars, if_pos (passes_iff.2 h), String.ofList_toList]

/-- No literal gets a name that is kept for the schema language. -/
theorem enumKey_notMem (literal : Json) : enumKey literal ∉ literals := by
  rw [enumKey]
  generalize safe literal.display = key
  by_cases hkey : literals.contains key = true
  · rw [if_pos hkey]
    rw [List.contains_iff_mem, literals] at hkey
    simp only [List.mem_cons, List.not_mem_nil, or_false] at hkey
    rcases hkey with rfl | rfl | rfl <;> decide
  · rw [if_neg hkey]
    rwa [List.contains_iff_mem] at hkey

theorem isLegal_enumKey_iff {literal : Json} :
    isLegal (enumKey literal).toList = true ↔ ¬ EndsLine literal.display.toList := by
  have hkept : literals.contains (enumKey literal) = false := by
    simpa [List.contains_iff_mem] using enumKey_notMem literal
  rw [← valueFlaw?_enumKey_eq_none_iff, valueFlaw?, hkept, if_neg Bool.false_ne_true,
    Option.or_none, flaw?_eq_none_iff]

end Name

/-! ### What a reader accepts -/

theorem checkFieldName_ok_iff {name found : String} :
    checkFieldName (.str name) = .ok found ↔ Name.flaw? name = none ∧ name = found := by
  rw [checkFieldName]
  cases Name.flaw? name <;> simp

theorem checkValueName_ok_iff {name found : String} :
    checkValueName name = .ok found ↔ Name.valueFlaw? name = none ∧ name = found := by
  rw [checkValueName]
  cases Name.valueFlaw? name <;> simp

/-- Fields can be read just if all their names are legal. -/
theorem FieldMap.checked_ok_iff {fields : List Field} :
    (FieldMap.ofProperties fields).checked = .ok fields ↔
      ∀ field ∈ fields, Name.flaw? field.name = none := by
  constructor
  · intro h field hfield
    obtain ⟨names, hnames, -⟩ := bind_ok h
    obtain ⟨name, -, hname⟩ := forall₂_exists (mapM_ok_iff.1 hnames) hfield
    exact (checkFieldName_ok_iff.1 hname).1
  · intro h
    have hnames : fields.mapM (fun field => checkFieldName (.str field.name)) =
        .ok (fields.map (·.name)) := by
      rw [mapM_ok_iff, List.forall₂_map_right_iff, List.forall₂_same]
      exact fun field hfield => checkFieldName_ok_iff.2 ⟨h field hfield, rfl⟩
    rw [FieldMap.checked, hnames]
    rfl

/-- Values can be read just if all their keys are legal. -/
theorem ValueMap.checked_ok_iff {values : List (String × Json)} :
    (ValueMap.ofValues values).checked = .ok values ↔
      ∀ entry ∈ values, Name.valueFlaw? entry.1 = none := by
  rw [ValueMap.ofValues, ValueMap.checked, mapM_ok_iff, List.forall₂_map_left_iff,
    List.forall₂_same]
  refine forall₂_congr fun ⟨key, value⟩ _ => ?_
  show (do return (← checkValueName key, value)) = Except.ok (key, value) ↔ _
  constructor
  · intro h
    obtain ⟨name, hname, -⟩ := bind_ok h
    exact (checkValueName_ok_iff.1 hname).1
  · intro hclean
    rw [checkValueName_ok_iff.2 ⟨hclean, rfl⟩]
    rfl

/-! ### What is built -/

/-- Fields are named after the properties, in order. -/
theorem Build.buildFields_names {setting : Setting} {owner : String} {required : List Json}
    {properties : List (String × Shape)} {done fields : List Field} {registry after : Registry}
    (h : (buildFields setting owner required done properties).on registry = (.ok fields, after)) :
    fields.map (·.name) =
      done.map (·.name) ++ properties.map fun entry => Name.safe entry.1 := by
  induction properties generalizing done registry with
  | nil =>
    cases h
    rw [List.map_nil, List.append_nil]
  | cons head rest ih =>
    rw [buildFields] at h
    split at h
    · cases h
    · obtain ⟨type, middle, -, h⟩ := on_bind_ok h
      rw [ih h, List.map_append, List.append_assoc]
      rfl

theorem Build.buildPlan_names {plan : FieldPlan} {fields : List Field} {registry after : Registry}
    (h : (buildPlan plan).on registry = (.ok (.ofProperties fields), after)) :
    fields.map (·.name) = plan.properties.map fun entry => Name.safe entry.1 := by
  unfold buildPlan at h
  split at h
  · obtain ⟨name, middle, -, h⟩ := on_bind_ok h
    cases h
  · obtain ⟨built, middle, hbuilt, h⟩ := on_bind_ok h
    cases h
    exact buildFields_names hbuilt

theorem isSome_lookup_addValue {owner : String} {values after : List (String × Json)}
    {literal : Json} (h : addValue owner values literal = .ok after) {key : String}
    (hkey : key = Name.enumKey literal ∨ (values.lookup key).isSome) :
    (after.lookup key).isSome := by
  rw [lookup_addValue h]
  split
  · rfl
  · rename_i hother
    exact hkey.resolve_left hother

/-- Every literal has a value under its key. -/
theorem isSome_lookup_enumValues {owner : String} {literals : List Json}
    {values : List (String × Json)} (h : enumValues owner literals = .ok values) :
    ∀ literal ∈ literals, (values.lookup (Name.enumKey literal)).isSome := by
  suffices ∀ start, literals.foldlM (addValue owner) start = .ok values →
      ∀ key, (key ∈ literals.map Name.enumKey ∨ (start.lookup key).isSome) →
        (values.lookup key).isSome from
    fun literal hliteral => this [] h _ (.inl (List.mem_map_of_mem hliteral))
  clear h
  induction literals with
  | nil =>
    intro start h key hkey
    cases h
    exact hkey.resolve_left List.not_mem_nil
  | cons literal literals ih =>
    intro start h key hkey
    rw [List.foldlM_cons] at h
    obtain ⟨next, hnext, h⟩ := bind_ok h
    refine ih next h key ?_
    rcases hkey with hkey | hkey
    · rcases List.mem_cons.1 hkey with hkey | hkey
      · exact .inr (isSome_lookup_addValue hnext (.inl hkey))
      · exact .inl hkey
    · exact .inr (isSome_lookup_addValue hnext (.inr hkey))

/-- The fields of an object can be read just if no property is a legal name with a line feed
behind it. -/
theorem Build.buildPlan_checked_iff {plan : FieldPlan} {fields : List Field}
    {registry after : Registry}
    (h : (buildPlan plan).on registry = (.ok (.ofProperties fields), after)) :
    (FieldMap.ofProperties fields).checked = .ok fields ↔
      ∀ entry ∈ plan.properties, ¬ Name.EndsLine entry.1.toList := by
  have hnames := buildPlan_names h
  have hlegal (name : String) :
      name ∈ fields.map (·.name) ↔ ∃ entry ∈ plan.properties, Name.safe entry.1 = name := by
    rw [hnames, List.mem_map]
  rw [FieldMap.checked_ok_iff]
  constructor
  · intro hfields entry hentry
    obtain ⟨field, hfield, hname⟩ := List.mem_map.1 ((hlegal _).2 ⟨entry, hentry, rfl⟩)
    rw [← Name.flaw?_safe_eq_none_iff, ← hname]
    exact hfields field hfield
  · intro hproperties field hfield
    obtain ⟨entry, hentry, hname⟩ := (hlegal field.name).1 (List.mem_map_of_mem hfield)
    rw [← hname, Name.flaw?_safe_eq_none_iff]
    exact hproperties entry hentry

/-- The values of an enum can be read just if no literal reads as a legal name with a line feed
behind it. -/
theorem enumValues_checked_iff {owner : String} {literals : List Json}
    {values : List (String × Json)} (h : enumValues owner literals = .ok values) :
    (ValueMap.ofValues values).checked = .ok values ↔
      ∀ literal ∈ literals, ¬ Name.EndsLine literal.display.toList := by
  rw [ValueMap.checked_ok_iff]
  constructor
  · intro hvalues literal hliteral
    obtain ⟨value, hvalue⟩ := Option.isSome_iff_exists.1 (isSome_lookup_enumValues h _ hliteral)
    obtain ⟨before, rest, hentries, -⟩ := List.lookup_eq_some_iff.1 hvalue
    have hentry : (Name.enumKey literal, value) ∈ values := by simp [hentries]
    exact Name.valueFlaw?_enumKey_eq_none_iff.1 (hvalues (Name.enumKey literal, value) hentry)
  · intro hliterals entry hentry
    obtain ⟨literal, hliteral, hkey⟩ := enumValues_keys h entry hentry
    rw [hkey]
    exact Name.valueFlaw?_enumKey_eq_none_iff.2 (hliterals literal hliteral)

/-! ### All names -/

/-- **Names of fields and values are legal**, and a text stays as it is just if it is a legal
name, but for legal names with a line feed behind them, which stay as they are as well. No value
is named like a literal of the schema language. So the fields that are built for an object, and
the values for an enum, can be read unless a property or a literal is such a text. -/
theorem safe_names (text : String) (literal : Json) (plan : FieldPlan) (registry : Registry)
    (owner : String) (literals : List Json) :
    ((Name.isLegal (Name.safe text).toList = true ↔ ¬ Name.EndsLine text.toList) ∧
      (Name.safe text = text ↔ Name.isLegal text.toList = true ∨ Name.EndsLine text.toList)) ∧
    ((Name.isLegal (Name.enumKey literal).toList = true ↔
        ¬ Name.EndsLine literal.display.toList) ∧
      Name.enumKey literal ∉ ["true", "false", "null"]) ∧
    (∀ fields after, (Build.buildPlan plan).on registry = (.ok (.ofProperties fields), after) →
      fields.map (·.name) = plan.properties.map (fun entry => Name.safe entry.1) ∧
      ((FieldMap.ofProperties fields).checked = .ok fields ↔
        ∀ entry ∈ plan.properties, ¬ Name.EndsLine entry.1.toList)) ∧
    ∀ values, enumValues owner literals = .ok values →
      (∀ literal ∈ literals, (values.lookup (Name.enumKey literal)).isSome) ∧
      ((ValueMap.ofValues values).checked = .ok values ↔
        ∀ literal ∈ literals, ¬ Name.EndsLine literal.display.toList) := by
  refine ⟨⟨Name.isLegal_safe_iff, Name.safe_eq_self_iff⟩,
    ⟨Name.isLegal_enumKey_iff, Name.enumKey_notMem literal⟩, ?_, ?_⟩
  · exact fun fields after h => ⟨Build.buildPlan_names h, Build.buildPlan_checked_iff h⟩
  · exact fun values h => ⟨isSome_lookup_enumValues h, enumValues_checked_iff h⟩

/-- An object with the properties `a-b` and `1` and an enum of `b c` and `true`. -/
theorem safe_names_mended :
    let plan : FieldPlan :=
      { key := 0, owner := "A", required := [.str "1"], setting := {},
        properties := [("a-b", .primitive { path := "a-b" } .string),
          ("1", .primitive { path := "1" } .integer)] }
    ∃ fields after values,
      (Build.buildPlan plan).on .empty = (.ok (.ofProperties fields), after) ∧
      fields.map (·.name) = ["a_b", "_1"] ∧
      (FieldMap.ofProperties fields).checked = .ok fields ∧
      enumValues "E" [.str "b c", .str "true"] = .ok values ∧
      values.map (·.1) = ["b_c", "true_"] ∧
      (ValueMap.ofValues values).checked = .ok values := by
  intro plan
  obtain ⟨-, -, hfields, hvalues⟩ :=
    safe_names "a-b" (.str "true") plan .empty "E" [.str "b c", .str "true"]
  obtain ⟨hnames, hchecked⟩ := hfields _ _ rfl
  obtain ⟨-, hread⟩ := hvalues _ (by rfl)
  refine ⟨_, _, _, rfl, hnames.trans (by decide), hchecked.2 ?_, by rfl, by rfl, hread.2 ?_⟩
  · intro entry hentry
    rw [← Name.isLegal_safe_iff]
    revert entry
    decide
  · intro literal hliteral
    rw [← Name.isLegal_enumKey_iff]
    revert literal
    decide

/-- A line feed behind a legal name goes unnoticed. -/
theorem safe_line_feed :
    Name.isLegal "a\n".toList = false ∧ Name.safe "a\n" = "a\n" ∧
      Name.enumKey (.str "a\n") = "a\n" := by
  decide

end SchemaGraph

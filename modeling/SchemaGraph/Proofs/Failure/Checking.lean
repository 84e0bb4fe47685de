import SchemaGraph.Convert

/-! Documents that their meta-schema has nothing against.

A schema passes if each of its keywords does, and a batch of documents that pass converts
alike in every mode of the check (`convert_off`). -/
namespace SchemaGraph

namespace MetaSchema

/-! ### Keywords that pass -/

theorem check_string (draft : Draft) (text : String) :
    check draft .string (.str text) = [] := by
  rw [Rule.string, Rule.kind, check]
  rfl

theorem shallow_words {allowed : List String} {word : String} (h : word ∈ allowed) :
    (Rule.words allowed).shallow (.str word) = [] := by
  have hany : (allowed.any fun other => Json.alike (.str word) (.str other)) = true :=
    List.any_eq_true.2 ⟨word, h, by simp [Json.alike, Json.sameBy, Json.sameScalar]⟩
  simp only [Rule.shallow, hany]
  rfl

/-- The word for a type passes. -/
theorem check_typeNames (draft : Draft) {word : String}
    (h : word ∈ ["array", "boolean", "integer", "null", "number", "object", "string"]) :
    check draft .typeNames (.str word) = [] := by
  have hsimple : check draft .simpleType (.str word) = [] := by
    rw [Rule.simpleType, check]
    · exact shallow_words h
    -- The rule is not one of those that look into a value.
    all_goals simp
  rw [Rule.typeNames, check, passesAny, hsimple]
  rfl

/-! ### Documents that pass -/

/-- A schema passes if each of its keywords does. -/
theorem checkKeywords_eq_nil {draft : Draft} {keywords : List (String × Rule)} {schema : Json}
    (h : ∀ entry ∈ keywords, ∀ value, schema.member? entry.1 = some value →
      check draft entry.2 value = []) : checkKeywords draft keywords schema = [] := by
  induction keywords with
  | nil => rw [checkKeywords]
  | cons entry rest ih =>
    obtain ⟨hfirst, hrest⟩ := List.forall_mem_cons.1 h
    rw [checkKeywords]
    split
    · exact ih hrest
    · rename_i value hvalue
      rw [hfirst value hvalue, ih hrest, List.append_nil]

/-- A document that names no meta-schema passes if its members do by the seventh draft. -/
theorem problem?_eq_none {members : List (String × Json)}
    (hunnamed : members.lookup "$schema" = none)
    (h : ∀ member ∈ members, ∀ rule, (member.1, rule) ∈ draft7.keywords →
      check draft7 rule member.2 = []) : problem? (.obj members) = .ok none := by
  have hdraft : draftOf (.obj members) = .ok draft7 := by
    simp only [draftOf, Json.member?, hunnamed]
  have hkeywords : checkKeywords draft7 draft7.keywords (.obj members) = [] := by
    refine checkKeywords_eq_nil fun entry hentry value hvalue => ?_
    obtain ⟨before, rest, hmembers, -⟩ := List.lookup_eq_some_iff.1 hvalue
    have hmember : (entry.1, value) ∈ members :=
      hmembers ▸ List.mem_append_right _ List.mem_cons_self
    exact h _ hmember entry.2 hentry
  unfold problem?
  rw [hdraft]
  show first? (check draft7 .schema (.obj members)) = .ok none
  rw [check, hkeywords]
  rfl

end MetaSchema

/-! ### The mode of the check -/

/-- A document that passes has no problem in any mode. -/
theorem checkDocument_eq_none {document : Json} (mode : CheckMode) (id : Json)
    (h : MetaSchema.problem? document = .ok none) : checkDocument mode id document = .ok none := by
  cases mode with
  | off => rfl
  | warn => exact h
  | error =>
    simp only [checkDocument, h]
    rfl

namespace Build

variable {documents : List Json}

theorem lift_ok_bind {α β : Type} (value : α) (next : α → Build β) :
    lift (.ok value) >>= next = next value := rfl

theorem compile_off {document : Json} (config : Config) (customize? : Option Customizer)
    (h : MetaSchema.problem? document = .ok none) :
    compile config customize? document =
      compile { config with checkMode := .off } customize? document := by
  unfold compile
  simp only [checkDocument_eq_none _ _ h]
  rfl

theorem compileAll_off (config : Config) (customize? : Option Customizer)
    (h : ∀ document ∈ documents, MetaSchema.problem? document = .ok none) :
    compileAll config customize? documents =
      compileAll { config with checkMode := .off } customize? documents := by
  have hforM : documents.forM (compile config customize?) =
      documents.forM (compile { config with checkMode := .off } customize?) := by
    induction documents with
    | nil => rfl
    | cons document rest ih =>
      obtain ⟨hfirst, hrest⟩ := List.forall_mem_cons.1 h
      simp only [List.forM, compile_off config customize? hfirst, ih hrest]
  unfold compileAll
  rw [hforM]

/-- Documents that pass convert as if they were not checked. -/
theorem convert_off (config : Config) (customize? : Option Customizer) (entryPoints : EntryPoints)
    (transforms : List Transform) {input : Json} (hread : documentsOf input = .ok documents)
    (h : ∀ document ∈ documents, MetaSchema.problem? document = .ok none) :
    convert config customize? entryPoints transforms input =
      convert { config with checkMode := .off } customize? entryPoints transforms input := by
  unfold convert
  simp only [hread, lift_ok_bind, compileAll_off config customize? h]
  rfl

end Build
end SchemaGraph

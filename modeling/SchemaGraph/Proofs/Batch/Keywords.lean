import Mathlib.Tactic.FinCases
import SchemaGraph.Batch
import SchemaGraph.Proofs.Graph.Work
import SchemaGraph.Proofs.Shape.Precedence

/-! Which keywords count in a batch.

Compiling reads of a document its identifier and its shape. So where documents are not checked,
two batches of tantamount documents under the same identifiers compile alike
(`Build.compileAll_tantamount`): keywords that are not supported are passed over at every depth,
and so are the ones that the deciding mark hides. -/
namespace SchemaGraph

/-- Two documents under one identifier that differ at most in what does not count. -/
structure Json.SameDocument (first second : Json) : Prop where
  isObject : first.isObject = second.isObject
  id : first.member "$id" = second.member "$id"
  tantamount : Tantamount first second

/-- Only an object has an identifier. -/
theorem identifierOf_eq_ite (document : Json) :
    identifierOf document =
      if document.isObject then
        match document.present? "$id" with
        | some id => .ok id
        | none => .error .missingIdentifier
      else .error (.wrongKind .object) := by
  cases document <;> rfl

theorem Json.SameDocument.identifierOf_eq {first second : Json} (h : first.SameDocument second) :
    identifierOf first = identifierOf second := by
  have hshares : first.Shares ["$id"] second := List.forall_mem_singleton.2 h.id
  rw [identifierOf_eq_ite, identifierOf_eq_ite, h.isObject,
    hshares.present? List.mem_cons_self]

namespace Build

theorem compile_sameDocument {config : Config} (hoff : config.checkMode = .off)
    (customize? : Option Customizer) {first second : Json} (h : first.SameDocument second) :
    compile config customize? first = compile config customize? second := by
  unfold compile buildSchema checkDocument
  simp only [hoff, h.identifierOf_eq, h.tantamount.ofJson_eq]

/-- **Only the supported keywords count**, by precedence and at every depth: batches that differ
in nothing else compile alike, to the same registry or with the same fault. -/
theorem compileAll_tantamount {config : Config} (hoff : config.checkMode = .off)
    (customize? : Option Customizer) {documents others : List Json}
    (h : List.Forall₂ Json.SameDocument documents others) :
    compileAll config customize? documents = compileAll config customize? others := by
  have hforM : documents.forM (compile config customize?) =
      others.forM (compile config customize?) := by
    induction h with
    | nil => rfl
    | cons hfirst _ ih => simp only [List.forM, compile_sameDocument hoff customize? hfirst, ih]
  unfold compileAll
  rw [hforM]

/-- A document with a union, literals and an array among its properties. -/
def bareDocument : Json :=
  .obj [("$id", .str "A"), ("type", .str "object"), ("required", .arr [.str "p"]),
    ("properties", .obj [
      ("p", .obj [("oneOf", .arr [.obj [("then", .obj [("type", .str "string")])],
        .obj [("$ref", .str "B")]])]),
      ("q", .obj [("type", .str "string"), ("enum", .arr [.str "x"])]),
      ("r", .obj [("type", .str "array"), ("items", .obj [("type", .str "integer")])])])]

/-- The same with keywords added that are not supported, and with marks that others hide. -/
def markedDocument : Json :=
  .obj [("$id", .str "A"), ("$ref", .str "none"), ("type", .str "object"),
    ("required", .arr [.str "p"]), ("additionalProperties", .bool false),
    ("properties", .obj [
      ("p", .obj [("type", .str "object"), ("oneOf", .arr [
        .obj [("title", .str "hidden"), ("then", .obj [("type", .str "string"),
          ("format", .str "date")]), ("oneOf", .int 1)],
        .obj [("$ref", .str "B"), ("type", .str "string"), ("properties", .int 2)]])]),
      ("q", .obj [("items", .int 3), ("type", .str "string"), ("enum", .arr [.str "x"]),
        ("$ref", .str "none")]),
      ("r", .obj [("type", .str "array"), ("enum", .int 4),
        ("items", .obj [("type", .str "integer"), ("minimum", .int 5)])])])]

theorem sameDocument_marked : bareDocument.SameDocument markedDocument := by
  have hstring : ¬ Json.IsContainer (.str "string") := by simp [Json.IsContainer]
  have hnone : ¬ Json.IsContainer .null := by simp [Json.IsContainer]
  refine ⟨rfl, rfl, .object ?root rfl rfl (.members [("p", _, _), ("q", _, _), ("r", _, _)]) ?_⟩
  case root =>
    intro keyword hkeyword
    fin_cases hkeyword <;> rfl
  simp only [List.map_cons, List.map_nil, List.forall_mem_cons]
  refine ⟨.union ?union nofun nofun (.items [(_, _), (_, _)]) ?_ ?_, .enum ?enum rfl hstring nofun,
    .array ?array rfl rfl rfl (.of_shares ?items), List.forall_mem_nil _⟩
  case union | enum | array | items =>
    intro keyword hkeyword
    fin_cases hkeyword <;> rfl
  · simp only [List.forall_mem_cons]
    exact ⟨rfl, rfl, List.forall_mem_nil _⟩
  · simp only [List.forall_mem_cons]
    refine ⟨.of_shares ?wrapped, .reference ?reference rfl hnone hstring rfl nofun,
      List.forall_mem_nil _⟩
    case wrapped | reference =>
      intro keyword hkeyword
      fin_cases hkeyword <;> rfl

/-- Added keywords change nothing, at whatever depth. -/
theorem compileAll_tantamount_marked :
    let target : Json := .obj [("$id", .str "B"), ("type", .str "object")]
    List.Forall₂ Json.SameDocument [target, bareDocument] [target, markedDocument] ∧
    ((compileAll { checkMode := .off } none [target, bareDocument]).on .empty).1 = .ok () ∧
    compileAll { checkMode := .off } none [target, bareDocument] =
      compileAll { checkMode := .off } none [target, markedDocument] := by
  intro target
  have hdocuments : List.Forall₂ Json.SameDocument [target, bareDocument]
      [target, markedDocument] :=
    .cons ⟨rfl, rfl, .refl target⟩ (.cons sameDocument_marked .nil)
  refine ⟨hdocuments, ?_, compileAll_tantamount rfl none hdocuments⟩
  exact congrArg Prod.fst (on_eq_of_isOk (by decide +kernel))

end Build
end SchemaGraph

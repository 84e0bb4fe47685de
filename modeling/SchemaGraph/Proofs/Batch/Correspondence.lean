import SchemaGraph.Proofs.Batch.Sources
import SchemaGraph.Proofs.Graph.Naming

/-! What a compiled batch looks like.

Without a customizer, the types of a registry can be read off the documents. A shape at
a position `Represents` its type if the type is of the shape's form and named after the
position, if its parts represent the shape's parts at the positions that belong to
them, and if the fields that were built for an object are those of its properties. A
reference is represented by the very type that the registry has for its target.

Since plans hold what they were made from, this follows for each type from the place it
stands at (`Stands.represents`), and so for each entry of the registry
(`compileAll_represents`). -/
namespace SchemaGraph

mutual

/-- The type is what the registry has for the shape at the position. The objects among the
shapes that have no properties have `emptyField` for their only field. -/
inductive Represents (registry : Registry) (emptyField : Json) :
    String → Shape → GraphType → Prop where
  | primitive {position site kind} :
      Represents registry emptyField position (.primitive site kind) (.scalar kind)
  | array {position site items key item}
      (hitem : Represents registry emptyField position items item) :
      Represents registry emptyField position (.array site items) (.list key (.nonNull item))
  | union {position site cases key members}
      (hmembers : RepresentsCases registry emptyField (Name.typeName position) cases members) :
      Represents registry emptyField position (.union site cases)
        (.union (.plain key (Name.typeName position) site) members)
  | enum {position site literals base key values}
      (hvalues : enumValues (Name.typeName position) literals = .ok values) :
      Represents registry emptyField position (.enum site literals base)
        (.enum (.plain key (Name.typeName position) site) (.ofValues values))
  | emptyObject {position site required key plan}
      (hbuilt : registry.built.lookup plan.key = some (.placeholder emptyField)) :
      Represents registry emptyField position (.object site required [])
        (.object (.plain key (Name.typeName position) site) plan)
  | object {position site required properties key plan fields}
      (hnonempty : properties ≠ [])
      (hbuilt : registry.built.lookup plan.key = some (.ofProperties fields))
      (hfields : RepresentsFields registry emptyField (Name.typeName position) required
        properties fields) :
      Represents registry emptyField position (.object site required properties)
        (.object (.plain key (Name.typeName position) site) plan)
  | reference {position site target type}
      (hfind : registry.find? target = some type) :
      Represents registry emptyField position (.reference site target) type

/-- The members are what the registry has for the cases of the union `owner`, in order. -/
inductive RepresentsCases (registry : Registry) (emptyField : Json) :
    String → List (String × Shape) → List GraphType → Prop where
  | nil {owner} : RepresentsCases registry emptyField owner [] []
  | cons {owner key shape cases member members}
      (hmember : Represents registry emptyField s!"{owner}.oneOf[{key}]" shape member)
      (hmembers : RepresentsCases registry emptyField owner cases members) :
      RepresentsCases registry emptyField owner ((key, shape) :: cases) (member :: members)

/-- The fields are what the registry has for the properties of the object `owner`, in order. -/
inductive RepresentsFields (registry : Registry) (emptyField : Json) :
    String → List Json → List (String × Shape) → List Field → Prop where
  | nil {owner required} : RepresentsFields registry emptyField owner required [] []
  | cons {owner required property shape properties type fields}
      (htype : Represents registry emptyField s!"{owner}.{property}" shape type)
      (hfields : RepresentsFields registry emptyField owner required properties fields) :
      RepresentsFields registry emptyField owner required ((property, shape) :: properties)
        (.ofProperty required property shape type :: fields)

end

section
variable {registry : Registry} {emptyField : Json} {owner : String}

theorem RepresentsCases.of_getElem? {cases : List (String × Shape)} {members : List GraphType}
    (hlength : members.length = cases.length)
    (h : ∀ (index : Nat) key shape member, cases[index]? = some (key, shape) →
      members[index]? = some member →
      Represents registry emptyField s!"{owner}.oneOf[{key}]" shape member) :
    RepresentsCases registry emptyField owner cases members := by
  induction cases generalizing members with
  | nil =>
    rw [List.eq_nil_of_length_eq_zero hlength]
    exact .nil
  | cons head cases ih =>
    obtain ⟨member, members, rfl⟩ := List.exists_cons_of_length_eq_add_one hlength
    refine .cons (h 0 head.1 head.2 member rfl rfl) (ih (by simpa using hlength) ?_)
    intro index key shape other hcase hother
    exact h (index + 1) key shape other hcase hother

theorem RepresentsFields.of_getElem? {required : List Json} {properties : List (String × Shape)}
    {fields : List Field} (hlength : fields.length = properties.length)
    (h : ∀ (index : Nat) property shape field, properties[index]? = some (property, shape) →
      fields[index]? = some field → ∃ type, field = .ofProperty required property shape type ∧
        Represents registry emptyField s!"{owner}.{property}" shape type) :
    RepresentsFields registry emptyField owner required properties fields := by
  induction properties generalizing fields with
  | nil =>
    rw [List.eq_nil_of_length_eq_zero hlength]
    exact .nil
  | cons head properties ih =>
    obtain ⟨field, fields, rfl⟩ := List.exists_cons_of_length_eq_add_one hlength
    obtain ⟨type, rfl, htype⟩ := h 0 head.1 head.2 field rfl rfl
    refine .cons htype (ih (by simpa using hlength) ?_)
    intro index property shape other hproperty hother
    exact h (index + 1) property shape other hproperty hother

end

/-- What stands at a place represents the shape there, once all fields are built. -/
theorem Ledger.Stands.represents {ledger : Ledger} {emptyField : Json} {place : Place}
    {position : String} {shape : Shape} {type : GraphType}
    (hsound : ledger.Sound { emptyField }) (hbuilt : ledger.registry.IsBuilt)
    (h : ledger.Stands { emptyField } place position shape type) :
    Represents ledger.registry emptyField position shape type := by
  induction shape generalizing place position type with
  | union site cases ih =>
    cases h with
    | union hinfo hkey hlength hmembers =>
      rw [(Setting.info_plain_iff.1 hinfo).2]
      refine .union (.of_getElem? hlength fun index key shape member hcase hmember => ?_)
      exact ih (key, shape) (List.mem_of_getElem? hcase)
        (hmembers index key shape member hcase hmember)
  | object site required properties ih =>
    cases h with
    | object hinfo hkey hplan hplanKey =>
      obtain ⟨fields, hfields⟩ := Option.isSome_iff_exists.1 (hbuilt _ hplan)
      rw [(Setting.info_plain_iff.1 hinfo).2]
      cases hsound.fills _ hplan fields place hfields hplanKey with
      | placeholder hempty _ =>
        obtain rfl : properties = [] := hempty
        exact .emptyObject hfields
      | ofProperties hnonempty _ hlength hfill =>
        refine .object hnonempty hfields (.of_getElem? hlength ?_)
        intro index property shape field hproperty hfield
        obtain ⟨type, heq, hstands⟩ := hfill index property shape field hproperty hfield
        exact ⟨type, heq, ih (property, shape) (List.mem_of_getElem? hproperty) hstands⟩
  | array site items ih =>
    cases h with
    | array hkey hitem => exact .array (ih hitem)
  | bareArray site => cases h
  | enum site literals base =>
    cases h with
    | enum henum hkey =>
      obtain ⟨values, hvalues, htype⟩ := Setting.enumOf_plain henum
      rw [htype]
      exact .enum hvalues
  | reference site target =>
    cases h with
    | reference _ hfind => exact .reference hfind
  | primitive site kind =>
    cases h
    exact .primitive
  | unrecognized site type => cases h

namespace Build

/-- **A batch compiles to what its documents say.** The registry has one entry for each
document, in order, under the document's identifier, and the type of the entry represents the
shape of the document at the position that the identifier names. -/
theorem compileAll_represents {config : Config} {documents : List Json} {registry : Registry}
    (hdistinct : DistinctIds documents)
    (hrun : (compileAll config none documents).on .empty = (.ok (), registry)) :
    List.Forall₂ (fun document entry => ∃ source, Source.ofJson document = .ok source ∧
      entry.1 = source.id ∧
      Represents registry config.emptyField source.position source.shape entry.2)
      documents registry.entries := by
  have hkeeps : config.KeepsAll .empty documents := .inr ⟨hdistinct, fun _ _ _ _ => rfl⟩
  obtain ⟨sources, ledger, rfl, hcompiled⟩ := compileAll_holds hkeeps hrun
  have hholds := hcompiled.holds
  have hentries : List.Forall₂ (fun source entry => entry.1 = source.id ∧
      Represents ledger.registry config.emptyField source.position source.shape entry.2)
      sources ledger.registry.entries :=
    hholds.entries.imp fun source entry hentry =>
      ⟨hentry.1, hentry.2.represents hholds.sound hcompiled.isBuilt⟩
  have hsources := hcompiled.passes.imp fun document source hpasses => hpasses.source_eq
  exact forall₂_comp hsources hentries

/-- Two documents: a tree with a case analysis and a list of itself below its properties, and a
union that refers back to the tree. -/
def treeDocuments : List Json :=
  [.obj [("$id", .str "tree"), ("type", .str "object"), ("required", .arr [.str "kids"]),
      ("properties", .obj [
        ("kids", .obj [("type", .str "array"), ("items", .obj [("$ref", .str "tree")])]),
        ("kind", .obj [("type", .str "string"), ("enum", .arr [.str "leaf", .str "node"])]),
        ("next", .obj [("$ref", .str "choice")])])],
    .obj [("$id", .str "choice"), ("oneOf", .arr [.obj [("$ref", .str "tree")],
      .obj [("type", .str "object")]])]]

theorem compileAll_represents_tree :
    let config : Config := { checkMode := .off }
    let registry := ((compileAll config none treeDocuments).on .empty).2
    (compileAll config none treeDocuments).on .empty = (.ok (), registry) ∧
      List.Forall₂ (fun document entry => ∃ source, Source.ofJson document = .ok source ∧
        entry.1 = source.id ∧
        Represents registry config.emptyField source.position source.shape entry.2)
        treeDocuments registry.entries := by
  intro config registry
  have hrun : (compileAll config none treeDocuments).on .empty = (.ok (), registry) :=
    on_eq_of_isOk (by decide +kernel)
  have hdistinct : DistinctIds treeDocuments :=
    .of_ids [.str "tree", .str "choice"] rfl (by decide)
  exact ⟨hrun, compileAll_represents hdistinct hrun⟩

end Build
end SchemaGraph

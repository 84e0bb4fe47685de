import SchemaGraph.Proofs.Batch.Editions
import SchemaGraph.Proofs.Shape.Trail

/-! What stands where in a batch.

Going down a trail from the root of an edition, one meets the types that were built there
(`Shown`). A type that is shown stands for the shape at the end of the trail: in the ledger
of the whole batch if the trail goes through a property (`isLate`), since fields are built
when all documents are in, and otherwise in the ledger that saw the editions before only
(`Ledger.Records.stands_of_shown`). Once everything is built, every trail shows a type
(`Build.Recorded.exists_shown`). -/
namespace SchemaGraph

/-- The trail leads through a property. -/
def isLate (trail : List Turn) : Bool :=
  trail.any fun
    | .property _ _ => true
    | _ => false

theorem isLate_append (trail further : List Turn) :
    isLate (trail ++ further) = (isLate trail || isLate further) := List.any_append

/-- The type that stands at the end of a trail from the root of an edition. -/
inductive Shown (registry : Registry) (edition : Edition) :
    List Turn → Shape → GraphType → Prop where
  | root : Shown registry edition [] edition.source.shape edition.type
  | member {trail site cases info members key shape member} {index : Nat}
      (h : Shown registry edition trail (.union site cases) (.union info members))
      (hcase : cases[index]? = some (key, shape)) (hmember : members[index]? = some member) :
      Shown registry edition (trail ++ [.case index key]) shape member
  | item {trail site items key item}
      (h : Shown registry edition trail (.array site items) (.list key (.nonNull item))) :
      Shown registry edition (trail ++ [.item]) items item
  | field {trail site required properties info plan fields property shape type} {index : Nat}
      (h : Shown registry edition trail (.object site required properties) (.object info plan))
      (hbuilt : registry.built.lookup plan.key = some (.ofProperties fields))
      (hproperty : properties[index]? = some (property, shape))
      (hfield : fields[index]? = some (.ofProperty required property shape type)) :
      Shown registry edition (trail ++ [.property index property]) shape type

/-! ### One step further down -/

theorem pathOf_concat_case (trail : List Turn) (index : Nat) (key : String) :
    pathOf (trail ++ [.case index key]) = pathOf trail ++ [.case key] := by
  simp [pathOf, Turn.segment?]

theorem pathOf_concat_item (trail : List Turn) : pathOf (trail ++ [.item]) = pathOf trail := by
  simp [pathOf, Turn.segment?]

theorem pathOf_concat_property (trail : List Turn) (index : Nat) (name : String) :
    pathOf (trail ++ [.property index name]) = pathOf trail ++ [.property name] := by
  simp [pathOf, Turn.segment?]

/-- The position of a case, as it is built. -/
theorem Name.position_case (root : String) (path : List Segment) (key : String) :
    position root (path ++ [.case key]) = s!"{typeName (position root path)}.oneOf[{key}]" := by
  rw [position_concat]
  show typeName (position root path) ++ (".oneOf[" ++ key ++ "]") =
    typeName (position root path) ++ ".oneOf[" ++ key ++ "]"
  simp only [String.append_assoc]

/-- The position of a property, as it is built. -/
theorem Name.position_property (root : String) (path : List Segment) (name : String) :
    position root (path ++ [.property name]) = s!"{typeName (position root path)}.{name}" := by
  rw [position_concat]
  show typeName (position root path) ++ ("." ++ name) = typeName (position root path) ++ "." ++ name
  rw [String.append_assoc]

/-- What is shown is the type for the shape at the end of the trail. -/
theorem Shown.shape_at {registry : Registry} {edition : Edition} {trail : List Turn}
    {shape : Shape} {type : GraphType} (h : Shown registry edition trail shape type) :
    edition.source.shape.At trail shape := by
  induction h with
  | root => exact .here
  | member _ hcase _ ih => exact ih.append (.case hcase .here)
  | item _ ih => exact ih.append (.item .here)
  | field _ _ hproperty _ ih => exact ih.append (.property hproperty .here)

/-- A trail shows one type. -/
theorem Shown.unique {registry : Registry} {edition : Edition} {trail : List Turn}
    {shape other : Shape} {type type' : GraphType} (h : Shown registry edition trail shape type)
    (h' : Shown registry edition trail other type') : type = type' := by
  induction h generalizing other type' with
  | root =>
    generalize htrail : ([] : List Turn) = trail at h'
    cases h' with
    | root => rfl
    | _ => simp at htrail
  | @member trail site cases info members key shape member index h hcase hmember ih =>
    generalize htrail : trail ++ [Turn.case index key] = whole at h'
    cases h' with
    | member h'' _ hmember' =>
      obtain ⟨rfl, hlast⟩ := List.append_inj' htrail rfl
      cases hlast
      cases ih h''
      exact Option.some.inj (hmember.symm.trans hmember')
    | _ => simp at htrail
  | @item trail site items key item h ih =>
    generalize htrail : trail ++ [Turn.item] = whole at h'
    cases h' with
    | item h'' =>
      obtain ⟨rfl, -⟩ := List.append_inj' htrail rfl
      cases ih h''
      rfl
    | _ => simp at htrail
  | @field trail site required properties info plan fields property shape type index h hbuilt
      hproperty hfield ih =>
    generalize htrail : trail ++ [Turn.property index property] = whole at h'
    cases h' with
    | field h'' hbuilt' hproperty' hfield' =>
      obtain ⟨rfl, hlast⟩ := List.append_inj' htrail rfl
      cases hlast
      cases ih h''
      rw [hbuilt] at hbuilt'
      cases hbuilt'
      cases h.shape_at.unique h''.shape_at
      rw [hproperty] at hproperty'
      cases hproperty'
      rw [hfield] at hfield'
      exact Field.ofProperty_inj (Option.some.inj hfield')
    | _ => simp at htrail

/-! ### What is shown stands -/

namespace Ledger

/-- The ledger that the end of a trail was built with: below a property the last one, elsewhere
the one that saw the editions before. -/
def viewAt (ledger : Ledger) (before : List Edition) (trail : List Turn) : Ledger :=
  ledger.seeing (if isLate trail then ledger.registry.entries else entriesOf before)

theorem viewAt_late (ledger : Ledger) (before : List Edition) {trail : List Turn}
    (h : isLate trail = true) : ledger.viewAt before trail = ledger := by
  rw [viewAt, if_pos h]
  rfl

theorem viewAt_concat (ledger : Ledger) (before : List Edition) (trail : List Turn) {turn : Turn}
    (h : isLate [turn] = false) :
    ledger.viewAt before (trail ++ [turn]) = ledger.viewAt before trail := by
  rw [viewAt, viewAt, isLate_append, h, Bool.or_false]

variable {setting : Setting} {ledger : Ledger} {editions : List Edition}

/-- **What is shown stands for its shape**, in the ledger that it was built with. -/
theorem Records.stands_of_shown (h : ledger.Records setting editions)
    {before rest : List Edition} {edition : Edition}
    (heditions : editions = before ++ edition :: rest) {trail : List Turn} {shape : Shape}
    {type : GraphType} (hshown : Shown ledger.registry edition trail shape type) :
    (ledger.viewAt before trail).Stands setting (edition.place.follow trail)
      (Name.position edition.source.position (pathOf trail)) shape type := by
  induction hshown with
  | root => exact h.stands before edition rest heditions
  | member _ hcase hmember ih =>
    rw [viewAt_concat _ _ _ rfl, Place.follow_concat, pathOf_concat_case, Name.position_case]
    cases ih with
    | union _ _ _ hmembers => exact hmembers _ _ _ _ hcase hmember
  | item _ ih =>
    rw [viewAt_concat _ _ _ rfl, Place.follow_concat, pathOf_concat_item]
    cases ih with
    | array _ hitem => exact hitem
  | @field trail _ _ _ _ _ _ property _ _ index _ hbuilt hproperty hfield ih =>
    have hlate : isLate (trail ++ [Turn.property index property]) = true := by
      rw [isLate_append]
      exact Bool.or_true _
    rw [viewAt_late _ _ hlate, Place.follow_concat, pathOf_concat_property, Name.position_property]
    cases ih with
    | object _ _ hplan hplanKey =>
      cases h.sound.fills _ hplan _ _ hbuilt hplanKey with
      | ofProperties _ _ _ hfields =>
        obtain ⟨type, heq, hstands⟩ := hfields _ _ _ _ hproperty hfield
        rwa [Field.ofProperty_inj heq]

end Ledger

/-! ### Everything is shown -/

namespace Build.Recorded

variable {config : Config} {customize? : Option Customizer} {documents : List Json}
  {editions : List Edition} {ledger : Ledger}

/-- From where a type is shown, every trail further down shows one. -/
theorem exists_shown_append (h : Recorded config customize? documents editions ledger)
    {before rest : List Edition} {edition : Edition}
    (heditions : editions = before ++ edition :: rest) {trail further : List Turn}
    {shape inner : Shape} {type : GraphType}
    (hshown : Shown ledger.registry edition trail shape type) (hat : shape.At further inner) :
    ∃ type, Shown ledger.registry edition (trail ++ further) inner type := by
  induction hat generalizing trail type with
  | here => exact ⟨type, by rwa [List.append_nil]⟩
  | @case site cases index key shape further inner hcase _ ih =>
    cases h.records.stands_of_shown heditions hshown with
    | @union _ _ _ _ _ members _ _ hlength _ =>
      obtain ⟨hindex, -⟩ := List.getElem?_eq_some_iff.1 hcase
      have hmember := List.getElem?_eq_getElem (hlength.symm ▸ hindex : index < members.length)
      rw [List.append_cons]
      exact ih (.member hshown hcase hmember)
  | item _ ih =>
    cases h.records.stands_of_shown heditions hshown with
    | array _ _ =>
      rw [List.append_cons]
      exact ih (.item hshown)
  | @property site required properties index property shape further inner hproperty _ ih =>
    cases h.records.stands_of_shown heditions hshown with
    | object _ _ hplan hplanKey =>
      obtain ⟨built, hbuilt⟩ := Option.isSome_iff_exists.1 (h.isBuilt _ hplan)
      cases h.records.sound.fills _ hplan _ _ hbuilt hplanKey with
      | placeholder hempty _ =>
        rw [show properties = [] from hempty] at hproperty
        cases hproperty
      | @ofProperties fields _ _ hlength hfields =>
        obtain ⟨hindex, -⟩ := List.getElem?_eq_some_iff.1 hproperty
        have hfield := List.getElem?_eq_getElem (hlength.symm ▸ hindex : index < fields.length)
        obtain ⟨type, heq, -⟩ := hfields index _ _ _ hproperty hfield
        rw [List.append_cons]
        exact ih (.field hshown hbuilt hproperty (hfield.trans (congrArg some heq)))

/-- **Every trail from the root of an edition shows a type.** -/
theorem exists_shown (h : Recorded config customize? documents editions ledger)
    {edition : Edition} (hedition : edition ∈ editions) {trail : List Turn} {inner : Shape}
    (hat : edition.source.shape.At trail inner) :
    ∃ type, Shown ledger.registry edition trail inner type := by
  obtain ⟨before, rest, heditions⟩ := List.append_of_mem hedition
  exact h.exists_shown_append heditions .root hat

end Build.Recorded
end SchemaGraph

import Mathlib.Logic.Relation
import SchemaGraph.Proofs.Graph.Work
import SchemaGraph.Proofs.Shape.Inversion
import SchemaGraph.Proofs.Shape.Kinds

/-! The parts of a shape.

A shape nests others, and each of them has a position (`Shape.Part`). They are the shapes
of the schemas that reading visits, so what is known of all these schemas is known of the
parts (`Json.IsWellKinded.part`). -/
namespace SchemaGraph

namespace Shape

/-- A shape right inside another one, with the positions of both. -/
inductive Child : String × Shape → String × Shape → Prop where
  | case {position site cases key shape} (hcase : (key, shape) ∈ cases) :
      Child (position, .union site cases) (s!"{Name.typeName position}.oneOf[{key}]", shape)
  | item {position site items} : Child (position, .array site items) (position, items)
  | property {position site required properties property shape}
      (hproperty : (property, shape) ∈ properties) :
      Child (position, .object site required properties)
        (s!"{Name.typeName position}.{property}", shape)

/-- A shape inside another one, or that one itself, with the positions of both. -/
abbrev Part : String × Shape → String × Shape → Prop := Relation.ReflTransGen Child

/-- A shape right inside that of a schema is the shape of a schema that is visited next. -/
theorem Child.visits {path position place : String} {schema : Json} {shape part : Shape}
    (h : Child (position, shape) (place, part)) (hschema : ofJson path schema = .ok shape)
    (hkinds : schema.HasKinds) :
    ∃ path inner, schema.Visits inner ∧ ofJson path inner = .ok part := by
  cases reads_of_ofJson hschema with
  | union hmark hentries hcases =>
    cases h with
    | case hcase =>
      obtain ⟨⟨key, entry⟩, hentry, -, hpart⟩ := forall₂_exists (ofCases_made hcases).flip hcase
      rw [unwrapped_snd] at hpart
      exact ⟨_, _, .case hmark hentries hentry, hpart⟩
  | object hmark _ hentries hproperties =>
    cases h with
    | property hproperty =>
      obtain ⟨entry, hentry, -, hpart⟩ :=
        forall₂_exists (ofProperties_made hproperties).flip hproperty
      obtain ⟨others, hothers, hvisits⟩ := hkinds.propertiesOf_ok hmark
      rw [hentries] at hothers
      cases hothers
      exact ⟨_, _, hvisits entry hentry, hpart⟩
  | array hmark hitems =>
    cases h with
    | item => exact ⟨_, _, .items hmark, hitems⟩
  | _ => cases h

end Shape

/-- A part of the shape of a schema whose keywords are of the right kinds is the shape of such a
schema. -/
theorem Json.IsWellKinded.part {path position place : String} {schema : Json}
    {shape part : Shape} (h : schema.IsWellKinded) (hschema : Shape.ofJson path schema = .ok shape)
    (hpart : Shape.Part (position, shape) (place, part)) :
    ∃ path inner, inner.IsWellKinded ∧ Shape.ofJson path inner = .ok part := by
  generalize hfrom : (position, shape) = start at hpart
  generalize hto : (place, part) = last at hpart
  induction hpart generalizing place part with
  | refl =>
    cases hfrom
    cases hto
    exact ⟨path, schema, h, hschema⟩
  | @tail middle last hmiddle hchild ih =>
    obtain ⟨path, inner, ⟨hkinds, hparts⟩, hinner⟩ := ih rfl
    subst hto
    obtain ⟨path, next, hvisits, hnext⟩ := hchild.visits hinner hkinds
    exact ⟨path, next, hparts next hvisits, hnext⟩

theorem Marker.of_reference {schema target : Json} (h : Marker.of schema = .reference target) :
    schema.present? "$ref" = some target := by
  have := ofType_eq (schema.member "type")
  grind [Marker.of]

theorem Shape.ofJson_reference {path : String} {schema target : Json} {site : Site}
    (h : Shape.ofJson path schema = .ok (.reference site target)) :
    schema.present? "$ref" = some target := by
  cases reads_of_ofJson h with
  | reference hmark => exact Marker.of_reference hmark

/-- The references in the shape of such a schema are to texts. -/
theorem Json.IsWellKinded.target_eq {path position place : String} {schema target : Json}
    {shape : Shape} {site : Site} (h : schema.IsWellKinded)
    (hschema : Shape.ofJson path schema = .ok shape)
    (hpart : Shape.Part (position, shape) (place, .reference site target)) :
    ∃ text, target = .str text := by
  obtain ⟨path, inner, ⟨hkinds, -⟩, hinner⟩ := h.part hschema hpart
  exact hkinds.reference target (Shape.ofJson_reference hinner)

end SchemaGraph

import SchemaGraph.Proofs.Failure.Steps
import SchemaGraph.Shape.Reading

/-! How a shape came about.

A shape that was read of a schema was read by the mark that counts, and what it nests was read
of the values of that mark's keywords: there is one way to each form of a shape
(`Shape.reads_of_ofJson`). The cases of a union and the properties of an object go with the
entries of the schema one by one. -/
namespace SchemaGraph
namespace Shape

/-- The shape as it is read of the schema, by the mark that counts. -/
inductive Reads (path : String) (schema : Json) : Shape → Prop where
  | union {given entries cases} (hmark : Marker.of schema = .oneOf given)
      (hentries : casesOf given = .ok entries) (hcases : ofCases path entries = .ok cases) :
      Reads path schema (.union (siteOf path schema) cases)
  | object {required given names entries properties}
      (hmark : Marker.of schema = .object required given)
      (hnames : requiredOf required = .ok names) (hentries : propertiesOf given = .ok entries)
      (hproperties : ofProperties path entries = .ok properties) :
      Reads path schema (.object (siteOf path schema) names properties)
  | array {given items} (hmark : Marker.of schema = .array (some given))
      (hitems : ofJson (path ++ "/items") given = .ok items) :
      Reads path schema (.array (siteOf path schema) items)
  | bareArray (hmark : Marker.of schema = .array none) :
      Reads path schema (.bareArray (siteOf path schema))
  | enum {given base values} (hmark : Marker.of schema = .enum given base)
      (hvalues : given.elements? = some values) :
      Reads path schema (.enum (siteOf path schema) values base)
  | reference {target} (hmark : Marker.of schema = .reference target) :
      Reads path schema (.reference (siteOf path schema) target)
  | primitive {kind} (hmark : Marker.of schema = .primitive kind) :
      Reads path schema (.primitive (siteOf path schema) kind)
  | unrecognized {type} (hmark : Marker.of schema = .unrecognized type) :
      Reads path schema (.unrecognized (siteOf path schema) type)

variable {path : String} {schema : Json} {shape : Shape} {entries : List (String × Json)}

theorem reads_of_ofJson (h : ofJson path schema = .ok shape) : Reads path schema shape := by
  rw [ofJson_eq] at h
  cases hmark : Marker.of schema with
  | oneOf given =>
    rw [hmark] at h
    obtain ⟨entries, hentries, h⟩ := bind_ok h
    obtain ⟨cases, hcases, h⟩ := bind_ok h
    cases h
    exact .union hmark hentries hcases
  | object required given =>
    rw [hmark] at h
    obtain ⟨names, hnames, h⟩ := bind_ok h
    obtain ⟨entries, hentries, h⟩ := bind_ok h
    obtain ⟨properties, hproperties, h⟩ := bind_ok h
    cases h
    exact .object hmark hnames hentries hproperties
  | array given =>
    rw [hmark] at h
    cases given with
    | none =>
      cases h
      exact .bareArray hmark
    | some given =>
      obtain ⟨items, hitems, h⟩ := bind_ok h
      cases h
      exact .array hmark hitems
  | enum given base =>
    rw [hmark] at h
    cases hvalues : given.elements? with
    | none => simp [hvalues] at h
    | some values =>
      simp only [hvalues, Option.elim] at h
      cases h
      exact .enum hmark hvalues
  | reference target =>
    rw [hmark] at h
    cases h
    exact .reference hmark
  | primitive kind =>
    rw [hmark] at h
    cases h
    exact .primitive hmark
  | unrecognized type =>
    rw [hmark] at h
    cases h
    exact .unrecognized hmark

/-- The case that is read of an entry, at the path of its key. -/
def IsCaseAt (path : String) (entry : String × Json) (case : String × Shape) : Prop :=
  let schema := unwrapped s!"{path}/oneOf/{entry.1}" entry.2
  case.1 = entry.1 ∧ ofJson schema.1 schema.2 = .ok case.2

/-- The property that is read of an entry, at the path of its name. -/
def IsPropertyAt (path : String) (entry : String × Json) (property : String × Shape) : Prop :=
  property.1 = entry.1 ∧ ofJson s!"{path}/properties/{entry.1}" entry.2 = .ok property.2

theorem ofCases_made {cases : List (String × Shape)} (h : ofCases path entries = .ok cases) :
    List.Forall₂ (IsCaseAt path) entries cases := by
  induction entries generalizing cases with
  | nil =>
    rw [ofCases] at h
    cases h
    exact .nil
  | cons entry rest ih =>
    rw [ofCases] at h
    obtain ⟨shape, hshape, h⟩ := bind_ok h
    obtain ⟨shapes, hshapes, h⟩ := bind_ok h
    cases h
    exact .cons ⟨rfl, hshape⟩ (ih hshapes)

theorem ofProperties_made {properties : List (String × Shape)}
    (h : ofProperties path entries = .ok properties) :
    List.Forall₂ (IsPropertyAt path) entries properties := by
  induction entries generalizing properties with
  | nil =>
    rw [ofProperties] at h
    cases h
    exact .nil
  | cons entry rest ih =>
    rw [ofProperties] at h
    obtain ⟨shape, hshape, h⟩ := bind_ok h
    obtain ⟨shapes, hshapes, h⟩ := bind_ok h
    cases h
    exact .cons ⟨rfl, hshape⟩ (ih hshapes)

/-- The site of a shape is that of its schema. -/
theorem site_of_ofJson (h : ofJson path schema = .ok shape) : shape.site = siteOf path schema := by
  cases reads_of_ofJson h <;> rfl

end Shape
end SchemaGraph

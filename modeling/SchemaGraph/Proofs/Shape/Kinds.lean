import SchemaGraph.Shape.Reading

/-! Schemas whose keywords are of the right kinds.

Reading a shape fails only where a keyword that counts cannot be gone through. If the
keywords of a schema and of all the schemas that are visited from it have values of the
kinds that they should have, then the schema has a shape
(`Json.IsWellKinded.ofJson_ok`). -/
namespace SchemaGraph
namespace Json

/-- The keywords that decide a schema's shape are absent or of the right kinds. -/
structure HasKinds (schema : Json) : Prop where
  oneOf : ∀ value, schema.present? "oneOf" = some value →
    (∃ items, value = .arr items) ∨ ∃ members, value = .obj members
  properties : ∀ value, schema.present? "properties" = some value → ∃ members, value = .obj members
  required : ∀ value, schema.present? "required" = some value → ∃ items, value = .arr items
  enum : ∀ value, schema.present? "enum" = some value → ∃ items, value = .arr items
  reference : ∀ value, schema.present? "$ref" = some value → ∃ text, value = .str text

/-- Reading the schema visits the part next. -/
inductive Visits (schema : Json) : Json → Prop where
  | case {cases entries key case} (hmark : Marker.of schema = .oneOf cases)
      (hentries : Shape.casesOf cases = .ok entries) (hcase : (key, case) ∈ entries) :
      Visits schema ((case.present? "then").getD case)
  | property {required members name part}
      (hmark : Marker.of schema = .object required (some (.obj members)))
      (hpart : (name, part) ∈ members) : Visits schema part
  | items {items} (hmark : Marker.of schema = .array (some items)) : Visits schema items

/-- The keywords of the schema and of all schemas visited from it are of the right kinds. -/
inductive IsWellKinded : Json → Prop where
  | intro {schema} (hkinds : schema.HasKinds)
      (hparts : ∀ part, Visits schema part → IsWellKinded part) : IsWellKinded schema

end Json

namespace Marker

theorem of_object_required {schema : Json} {required properties : Option Json}
    (h : Marker.of schema = .object required properties) :
    schema.present? "required" = required := by
  have := ofType_eq (schema.member "type")
  grind [Marker.of]

theorem of_enum {schema values base : Json} (h : Marker.of schema = .enum values base) :
    schema.present? "enum" = some values := by
  have := ofType_eq (schema.member "type")
  grind [Marker.of]

end Marker

namespace Shape

theorem unwrapped_snd (path : String) (case : Json) :
    (unwrapped path case).2 = (case.present? "then").getD case := by
  unfold unwrapped
  cases case.present? "then" <;> rfl

theorem ofCases_ok {path : String} {entries : List (String × Json)}
    (h : ∀ entry ∈ entries, ∀ path, ∃ shape,
      ofJson path ((entry.2.present? "then").getD entry.2) = .ok shape) :
    ∃ shapes, ofCases path entries = .ok shapes := by
  induction entries with
  | nil => exact ⟨[], by rw [ofCases]⟩
  | cons head rest ih =>
    obtain ⟨key, case⟩ := head
    obtain ⟨shapes, hshapes⟩ := ih fun entry hentry => h entry (List.mem_cons_of_mem _ hentry)
    obtain ⟨shape, hshape⟩ := h (key, case) List.mem_cons_self
      (unwrapped s!"{path}/oneOf/{key}" case).1
    rw [← unwrapped_snd s!"{path}/oneOf/{key}"] at hshape
    rw [ofCases]
    simp only [hshape, hshapes, bind, Except.bind]
    exact ⟨_, rfl⟩

theorem ofProperties_ok {path : String} {entries : List (String × Json)}
    (h : ∀ entry ∈ entries, ∀ path, ∃ shape, ofJson path entry.2 = .ok shape) :
    ∃ shapes, ofProperties path entries = .ok shapes := by
  induction entries with
  | nil => exact ⟨[], by rw [ofProperties]⟩
  | cons head rest ih =>
    obtain ⟨name, property⟩ := head
    obtain ⟨shapes, hshapes⟩ := ih fun entry hentry => h entry (List.mem_cons_of_mem _ hentry)
    obtain ⟨shape, hshape⟩ := h (name, property) List.mem_cons_self s!"{path}/properties/{name}"
    rw [ofProperties]
    simp only [hshape, hshapes, bind, Except.bind]
    exact ⟨_, rfl⟩

end Shape

namespace Json

/-! ### Keywords of the right kinds can be gone through -/

theorem HasKinds.casesOf_ok {schema cases : Json} (h : schema.HasKinds)
    (hmark : Marker.of schema = .oneOf cases) : ∃ entries, Shape.casesOf cases = .ok entries := by
  rcases h.oneOf cases (Marker.of_oneOf hmark) with ⟨items, rfl⟩ | ⟨members, rfl⟩ <;>
    exact ⟨_, rfl⟩

theorem HasKinds.requiredOf_ok {schema : Json} {required properties : Option Json}
    (h : schema.HasKinds) (hmark : Marker.of schema = .object required properties) :
    ∃ names, Shape.requiredOf required = .ok names := by
  cases required with
  | none => exact ⟨[], rfl⟩
  | some value =>
    obtain ⟨items, rfl⟩ := h.required value (Marker.of_object_required hmark)
    simp only [Shape.requiredOf, elements?]
    split <;> exact ⟨_, rfl⟩

theorem HasKinds.propertiesOf_ok {schema : Json} {required properties : Option Json}
    (h : schema.HasKinds) (hmark : Marker.of schema = .object required properties) :
    ∃ entries, Shape.propertiesOf properties = .ok entries ∧
      ∀ entry ∈ entries, Visits schema entry.2 := by
  cases properties with
  | none => exact ⟨[], rfl, fun _ hentry => nomatch hentry⟩
  | some value =>
    obtain ⟨members, rfl⟩ := h.properties value (Marker.of_object hmark)
    exact ⟨members, rfl, fun entry hentry => .property hmark hentry⟩

/-- A schema whose keywords are of the right kinds has a shape. -/
theorem IsWellKinded.ofJson_ok {schema : Json} (h : schema.IsWellKinded) (path : String) :
    ∃ shape, Shape.ofJson path schema = .ok shape := by
  induction h generalizing path with
  | @intro schema hkinds hparts ih =>
    rw [Shape.ofJson_eq]
    cases hmark : Marker.of schema with
    | oneOf cases =>
      obtain ⟨entries, hentries⟩ := hkinds.casesOf_ok hmark
      obtain ⟨shapes, hshapes⟩ : ∃ shapes, Shape.ofCases path entries = .ok shapes :=
        Shape.ofCases_ok fun entry hentry path => ih _ (.case hmark hentries hentry) path
      exact ⟨_, by simp only [hentries, hshapes, bind, Except.bind]; rfl⟩
    | object required properties =>
      obtain ⟨names, hnames⟩ := hkinds.requiredOf_ok hmark
      obtain ⟨entries, hentries, hvisits⟩ := hkinds.propertiesOf_ok hmark
      obtain ⟨shapes, hshapes⟩ : ∃ shapes, Shape.ofProperties path entries = .ok shapes :=
        Shape.ofProperties_ok fun entry hentry path => ih _ (hvisits entry hentry) path
      exact ⟨_, by simp only [hnames, hentries, hshapes, bind, Except.bind]; rfl⟩
    | array items =>
      cases items with
      | none => exact ⟨_, rfl⟩
      | some items =>
        obtain ⟨shape, hshape⟩ := ih items (.items hmark) (path ++ "/items")
        exact ⟨_, by simp only [hshape, bind, Except.bind]; rfl⟩
    | enum values base =>
      obtain ⟨items, rfl⟩ := hkinds.enum values (Marker.of_enum hmark)
      exact ⟨_, rfl⟩
    | _ => exact ⟨_, rfl⟩

end Json
end SchemaGraph

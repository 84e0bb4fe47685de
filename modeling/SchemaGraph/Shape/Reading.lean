import SchemaGraph.Fault
import SchemaGraph.Shape.Basic

/-! The shape of a document.

A schema may carry the marks of several shapes. `Marker.of` settles which one
counts: cases come before the type `object`, then the type `array`, then
literals, then a reference, then a scalar type. `Shape.ofJson` follows the marker
through the whole document. Only the keywords of the marker that counts are
looked at; one of them with a value that cannot be gone through is a fault. -/
namespace SchemaGraph

/-- The mark that decides a schema's shape, with the values of its keywords. -/
inductive Marker where
  | oneOf (cases : Json)
  | object (required properties : Option Json)
  | array (items : Option Json)
  | enum (values base : Json)
  | reference (target : Json)
  | primitive (kind : Scalar)
  | unrecognized (type : Json)
  deriving Repr

namespace Marker

/-- The mark of a type that stands alone. -/
def ofType : Json → Marker
  | .str word => match Scalar.ofKeyword? word with
    | some kind => primitive kind
    | none => unrecognized (.str word)
  | type => unrecognized type

/-- The mark that counts. Null counts as absent; what is no object has no marks. -/
def of (schema : Json) : Marker :=
  match schema.present? "oneOf", schema.member "type" with
  | some cases, _ => oneOf cases
  | none, .str "object" => object (schema.present? "required") (schema.present? "properties")
  | none, .str "array" => array (schema.present? "items")
  | none, type =>
    match schema.present? "enum", schema.present? "$ref" with
    | some values, _ => enum values type
    | none, some target => reference target
    | none, none => ofType type

end Marker

namespace Shape

/-- The values of a sequence with their positions, counted from `start`. -/
def numbered (start : Nat) : List Json → List (String × Json)
  | [] => []
  | value :: rest => (toString start, value) :: numbered (start + 1) rest

/-- The cases of a union with their keys: positions in an array, names in an object. A
text has a case to each of its characters, none of them a schema. -/
def casesOf : Json → Except Fault (List (String × Json))
  | .obj members => .ok members
  | .arr items => .ok (numbered 0 items)
  | .str text => .ok (numbered 0 (text.toList.map fun _ => .null))
  | _ => .error (.wrongKind .sequence)

/-- What an object lists as required; an empty value of any kind lists nothing. -/
def requiredOf : Option Json → Except Fault (List Json)
  | none => .ok []
  | some required =>
    if required.truthy then
      match required.elements? with
      | some elements => .ok elements
      | none => .error (.wrongKind .sequence)
    else .ok []

/-- The properties of an object, in order; an empty value of any kind has none. -/
def propertiesOf : Option Json → Except Fault (List (String × Json))
  | none => .ok []
  | some (.obj members) => .ok members
  | some other => if other.truthy then .error (.wrongKind .object) else .ok []

/-- A case without its `then` wrapper, and its path. -/
def unwrapped (path : String) (case : Json) : String × Json :=
  match case.present? "then" with
  | some inner => (path ++ "/then", inner)
  | none => (path, case)

/-! ### Parts are smaller than the whole -/

theorem unwrapped_size_le (path : String) (case : Json) :
    (unwrapped path case).2.size ≤ case.size := by
  unfold unwrapped
  split
  · rename_i inner h
    exact Nat.le_of_lt (Json.size_present?_lt h)
  · exact Nat.le_refl _

theorem sizeMembers_numbered (start : Nat) (values : List Json) :
    Json.sizeMembers (numbered start values) = Json.sizeItems values := by
  induction values generalizing start with
  | nil => rfl
  | cons value rest ih => simp [numbered, Json.sizeMembers, Json.sizeItems, ih]

theorem sizeItems_nulls (text : List Char) :
    Json.sizeItems (text.map fun _ => Json.null) = text.length := by
  induction text with
  | nil => rfl
  | cons c rest ih =>
    rw [List.map_cons, Json.sizeItems_cons, ih, Json.size_null, List.length_cons]
    omega

theorem casesOf_size_lt {cases : Json} {entries : List (String × Json)}
    (h : casesOf cases = .ok entries) : Json.sizeMembers entries < cases.size := by
  cases cases with
  | obj members =>
    cases h
    rw [Json.size_obj]
    omega
  | arr items =>
    cases h
    rw [sizeMembers_numbered, Json.size_arr]
    omega
  | str text =>
    cases h
    rw [sizeMembers_numbered, sizeItems_nulls, Json.size_str, String.length_toList]
    omega
  | _ => cases h

theorem propertiesOf_size_lt {schema : Json} {entries : List (String × Json)}
    {given : Option Json} (hgiven : schema.present? "properties" = given)
    (h : propertiesOf given = .ok entries) : Json.sizeMembers entries < schema.size := by
  match given with
  | none =>
    simp only [propertiesOf, Except.ok.injEq] at h
    subst h
    exact Json.size_pos schema
  | some value =>
    have hlt := Json.size_present?_lt hgiven
    cases value with
    | obj members =>
      simp only [propertiesOf, Except.ok.injEq] at h
      subst h
      simp only [Json.size] at hlt
      omega
    | _ =>
      simp only [propertiesOf] at h
      split at h
      · cases h
      · cases h
        exact Json.size_pos schema

end Shape

namespace Marker

theorem ofType_eq (type : Json) :
    (∃ kind, ofType type = primitive kind) ∨ ofType type = unrecognized type := by
  unfold ofType
  split
  · split
    · exact .inl ⟨_, rfl⟩
    · exact .inr rfl
  · exact .inr rfl

theorem of_oneOf {schema cases : Json} (h : Marker.of schema = .oneOf cases) :
    schema.present? "oneOf" = some cases := by
  have := ofType_eq (schema.member "type")
  grind [Marker.of]

theorem of_object {schema : Json} {required properties : Option Json}
    (h : Marker.of schema = .object required properties) :
    schema.present? "properties" = properties := by
  have := ofType_eq (schema.member "type")
  grind [Marker.of]

theorem of_array {schema : Json} {items : Option Json} (h : Marker.of schema = .array items) :
    schema.present? "items" = items := by
  have := ofType_eq (schema.member "type")
  grind [Marker.of]

end Marker

namespace Shape

/-! ### Reading -/

/-- What a schema says about itself; what is no object says nothing. -/
def siteOf (path : String) (schema : Json) : Site :=
  { path, title := schema.member "title", description := schema.member "description" }

mutual

/-- The shape of a schema at a path. -/
def ofJson (path : String) (schema : Json) : Except Fault Shape :=
  let site := siteOf path schema
  match hmark : Marker.of schema with
  | .oneOf cases =>
    match hcases : casesOf cases with
    | .error fault => .error fault
    | .ok entries => do
      have := casesOf_size_lt hcases
      have := Json.size_present?_lt (Marker.of_oneOf hmark)
      return .union site (← ofCases path entries)
  | .object required properties => do
    let required ← requiredOf required
    match hproperties : propertiesOf properties with
    | .error fault => .error fault
    | .ok entries =>
      have := propertiesOf_size_lt (Marker.of_object hmark) hproperties
      return .object site required (← ofProperties path entries)
  | .array none => return .bareArray site
  | .array (some items) =>
    have := Json.size_present?_lt (Marker.of_array hmark)
    return .array site (← ofJson (path ++ "/items") items)
  | .enum values base =>
    match values.elements? with
    | some elements => return .enum site elements base
    | none => .error (.wrongKind .sequence)
  | .reference target => return .reference site target
  | .primitive kind => return .primitive site kind
  | .unrecognized type => return .unrecognized site type
termination_by 2 * schema.size

def ofCases (path : String) : List (String × Json) → Except Fault (List (String × Shape))
  | [] => .ok []
  | (key, case) :: rest => do
    have := unwrapped_size_le s!"{path}/oneOf/{key}" case
    have := Json.size_pos case
    let schema := unwrapped s!"{path}/oneOf/{key}" case
    let shape ← ofJson schema.1 schema.2
    return (key, shape) :: (← ofCases path rest)
termination_by entries => 2 * Json.sizeMembers entries + 1
decreasing_by all_goals simp_all only [Json.sizeMembers_cons]; omega

def ofProperties (path : String) : List (String × Json) → Except Fault (List (String × Shape))
  | [] => .ok []
  | (name, property) :: rest => do
    have := Json.size_pos property
    let shape ← ofJson s!"{path}/properties/{name}" property
    return (name, shape) :: (← ofProperties path rest)
termination_by entries => 2 * Json.sizeMembers entries + 1
decreasing_by all_goals simp_all only [Json.sizeMembers_cons]; omega

end

/-- What is read of a schema, mark by mark, without the facts that the recursion ends by. -/
theorem ofJson_eq (path : String) (schema : Json) :
    ofJson path schema =
      match Marker.of schema with
      | .oneOf cases => do
        let entries ← casesOf cases
        return .union (siteOf path schema) (← ofCases path entries)
      | .object required properties => do
        let required ← requiredOf required
        let entries ← propertiesOf properties
        return .object (siteOf path schema) required (← ofProperties path entries)
      | .array none => return .bareArray (siteOf path schema)
      | .array (some items) => do
        return .array (siteOf path schema) (← ofJson (path ++ "/items") items)
      | .enum values base => values.elements?.elim (.error (.wrongKind .sequence)) fun elements =>
        return .enum (siteOf path schema) elements base
      | .reference target => return .reference (siteOf path schema) target
      | .primitive kind => return .primitive (siteOf path schema) kind
      | .unrecognized type => return .unrecognized (siteOf path schema) type := by
  rw [ofJson]
  simp only
  split <;> rename_i hmark <;> simp only [hmark]
  · split <;> rename_i hcases <;> rw [hcases] <;> rfl
  · refine congrArg _ (funext fun names => ?_)
    split <;> rename_i hproperties <;> rw [hproperties] <;> rfl
  · split <;> rename_i helements <;> rw [helements] <;> rfl

end Shape
end SchemaGraph

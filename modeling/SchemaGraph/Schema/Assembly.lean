import SchemaGraph.Schema.Roots

/-! Assembling a schema.

A schema is a list of definitions under distinct names, together with the names of
its roots. The types are gathered from the entries of the registry first, then
from the roots: each type is followed by the types that its fields or members
lead to, depth first. An entry of its own is never gathered early on the way from
another entry, and one that is entered twice moves to its last place. What stands in
the place of an interface or a field's type and is no type is gathered too, unless it
says nothing at all; then the schema cannot be made. -/
namespace SchemaGraph

structure FieldDefinition where
  name : String
  type : String
  description : Json := .null
  /-- The value that stands in the place of the field's type. -/
  foreign? : Option Json := none

inductive Definition where
  | scalar (kind : Scalar)
  | object (name : String) (description : Json) (interfaces : List Json)
    (fields : List FieldDefinition)
  | union (name : String) (description : Json) (members : List GraphType)
  | enum (name : String) (description : Json) (values : ValueMap)

namespace Definition

def name : Definition → String
  | scalar kind => kind.typeName
  | object name _ _ _ => name
  | union name _ _ => name
  | enum name _ _ => name

end Definition

structure Schema where
  description : Json := .null
  query? : Option String := none
  mutation? : Option String := none
  subscription? : Option String := none
  definitions : List Definition := []

namespace Schema

/-- The types that describe schemas; every schema has them. -/
def introspectionNames : List String :=
  ["__Schema", "__Type", "__TypeKind", "__Field", "__InputValue", "__EnumValue", "__Directive",
    "__DirectiveLocation"]

/-- The scalars that the types and directives of every schema use. -/
def standardNames : List String := ["String", "Boolean"]

def names (schema : Schema) : List String := schema.definitions.map Definition.name

/-- The names of all types of the schema, the ones of every schema included. -/
def allNames (schema : Schema) : List String :=
  schema.names ++ standardNames.filter (!schema.names.contains ·) ++ introspectionNames

end Schema

/-! ### Gathering types -/

/-- A definition with the identity of its type; roots have none. What is no type has
neither. -/
structure Gathered where
  identity? : Option GraphType.Identity := none
  definition? : Option Definition := none

namespace Gathered

/-- What a value in the place of a type is gathered as; one that says nothing is passed
over. -/
def ofForeign (value : Json) : Except Fault (List Gathered) :=
  if !value.truthy then .ok []
  else if value.isKey then .ok [{}]
  else .error (.noType value)

/-- What is wrong with the names of what was gathered, with the names in `before` in
front: one is missing, or one stands for a second time. -/
def nameFault? (before : List String) : List Gathered → Option Fault
  | [] => none
  | gathered :: rest =>
    match gathered.definition? with
    | none => some .nameless
    | some definition =>
      if before.contains definition.name then some (.duplicateType definition.name)
      else nameFault? (definition.name :: before) rest

end Gathered

namespace FieldDefinition

def ofField (field : Field) : FieldDefinition := {
  name := field.name
  type := field.type.text
  description := field.description
  foreign? := match field.type with
    | .foreign value => some value
    | _ => none }

end FieldDefinition

namespace TypeInfo

/-- What stands for the interfaces of an object, one by one. -/
def interfaceList (info : TypeInfo) : Except Fault (List Json) :=
  if !info.interfaces.truthy then .ok []
  else match info.interfaces.elements? with
    | some interfaces => .ok interfaces
    | none => .error (.noInterfaces info.interfaces)

end TypeInfo

namespace Build

/-- Adds the named type inside `type` and all that it leads to, leaving out what was
gathered before and the types in `later`. -/
def gather (later : List GraphType.Identity) (fuel : Nat) (gathered : List Gathered)
    (type : GraphType) : Build (List Gathered) := do
  match fuel with
  | 0 => return gathered
  | fuel + 1 =>
    let identity := type.named.identity
    if later.contains identity || gathered.any (·.identity? == some identity) then return gathered
    let add (definition : Definition) : List Gathered :=
      gathered ++ [⟨some identity, some definition⟩]
    match type.named with
    | .object info plan =>
      let interfaces ← lift info.interfaceList
      let foreign ← lift (interfaces.mapM Gathered.ofForeign)
      let fields ← readFields info plan
      let definition := .object info.name info.description interfaces (fields.map .ofField)
      (fields.map (·.type)).foldlM (gather later fuel) (add definition ++ foreign.flatten)
    | .union info members =>
      members.foldlM (gather later fuel) (add (.union info.name info.description members))
    | .enum info values => return add (.enum info.name info.description values)
    | .scalar kind => return add (.scalar kind)
    | .foreign value => return gathered ++ (← lift (Gathered.ofForeign value))
    | _ => return gathered

/-- Adds the types of entries, in order. -/
def gatherEntries (gathered : List Gathered) : List GraphType → Build (List Gathered)
  | [] => return gathered
  | type :: rest => do
    let identity := type.identity
    let later := (rest.map (·.identity)).filter (· != identity)
    let earlier := gathered.filter (·.identity? != some identity)
    let gathered ← gather later ((← get).capacity + 1) earlier type
    gatherEntries gathered rest

/-- Adds a root and the types that its fields lead to. -/
def gatherRoot (gathered : List Gathered) (root : RootType) : Build (List Gathered) := do
  let names ← lift root.checkedNames
  let fields := (names.zip root.fields).map fun (name, field) =>
    { name, type := field.typeText : FieldDefinition }
  let gathered := gathered ++ [{ definition? := some (.object root.name .null [] fields) }]
  let fuel := (← get).capacity + 1
  (root.fields.map (·.type)).foldlM (gather [] fuel) gathered

end Build

namespace Build

/-- The schema of some types and roots. Their names must be distinct. -/
def assemble (types : List GraphType) (roots : Roots) : Build Schema := do
  let gathered ← gatherEntries [] types
  let given := [roots.query?, roots.mutation?, roots.subscription?].filterMap id
  let gathered ← given.foldlM gatherRoot gathered
  match Gathered.nameFault? [] gathered with
  | some fault => throw fault
  | none => return {
      definitions := gathered.filterMap (·.definition?)
      query? := roots.query?.map (·.name)
      mutation? := roots.mutation?.map (·.name)
      subscription? := roots.subscription?.map (·.name) }

end Build
end SchemaGraph

import SchemaGraph.Description
import SchemaGraph.Graph.Registry
import SchemaGraph.Name.Case

/-! Building types out of shapes.

A type is named after the position of its shape: a document's identifier, then
the names of properties and the keys of cases, joined and turned into camel case
at every step (`typeName`). Items share the name of their array. References are
looked up in the registry as it is, so a reference that is built at once sees
earlier documents only. The fields of an object are not built at once; the object
gets a plan, and the plan is queued (`buildType`).

Building the fields of a plan can queue further plans, but never more work than
was left in it (`buildFields_grows`), which is why draining the queue ends. -/
namespace SchemaGraph

/-! ### Making named types -/

/-- The properties that a named type is made with. -/
structure Draft where
  name : Json
  description : Json
  extensions : Json := .null
  /-- What was added to the type's declaration. -/
  additions : Json := .null
  interfaces : Json := .null
  /-- The fields of an object, if they are not the ones of its shape. -/
  fields? : Option Json := none
  /-- The values of an enum, if they are not the ones of its shape. -/
  values? : Option Json := none
  /-- A property that types of this form do not have. -/
  hasUnknown : Bool := false
  /-- A property that goes by something other than a name. -/
  hasUnnamed : Bool := false

namespace Draft

/-- Properties that a type of any form may be given. -/
def commonProperties : List String :=
  ["name", "description", "extensions", "ast_node", "extension_ast_nodes"]

/-- Properties that a type of this form may be given. -/
def propertiesOf : TypeForm → List String
  | .object => "fields" :: "interfaces" :: "is_type_of" :: commonProperties
  | .enum => "values" :: "names_as_values" :: commonProperties

def update (form : TypeForm) (draft : Draft) (property : String) (value : Json) : Draft :=
  if !(propertiesOf form).contains property then { draft with hasUnknown := true }
  else if property == "name" then { draft with name := value }
  else if property == "description" then { draft with description := value }
  else if property == "extensions" then { draft with extensions := value }
  else if property == "extension_ast_nodes" then { draft with additions := value }
  else if property == "interfaces" then { draft with interfaces := value }
  else if property == "fields" then { draft with fields? := some value }
  else if property == "values" then { draft with values? := some value }
  else draft

end Draft

/-- A pair written as an array, a text or an object of two elements. Its first element
names something. -/
def pairOf (value : Json) : Except Fault (Json × Json) :=
  match value.elements? with
  | some [first, second] => if first.isKey then .ok (first, second) else .error (.wrongKind .key)
  | some _ => .error .notAPair
  | none => .error (.wrongKind .sequence)

/-- The pairs of an object, or of a sequence of pairs. -/
def pairsOf : Json → Except Fault (List (Json × Json))
  | .obj members => .ok (members.map fun (name, value) => (.str name, value))
  | value => match value.elements? with
    | some elements => elements.mapM pairOf
    | none => .error (.wrongKind .sequence)

/-- The names that no type of a document may take. -/
def reservedNames : List String :=
  ["String", "Int", "Float", "Boolean", "ID", "__Schema", "__Directive", "__DirectiveLocation",
    "__Type", "__Field", "__InputValue", "__EnumValue", "__TypeKind"]

/-- A name for a type: no reserved one, and legal. -/
def checkName (hasUnknown : Bool) (name : Json) : Except Fault String := do
  if !name.isKey then throw (.wrongKind .key)
  match name with
  | .str text =>
    if reservedNames.contains text then throw (.reservedType text)
    if hasUnknown then throw (.wrongKind .properties)
    match Name.flaw? text with
    | some flaw => throw (.badName flaw)
    | none => return text
  | _ =>
    if hasUnknown then throw (.wrongKind .properties)
    if name.isNull then throw .nameMissing else throw .nameNotText

namespace ValueMap

/-- The values of an enum that were given as a property. The last of a key stands. -/
def ofJson (values : Json) : ValueMap :=
  match pairsOf values with
  | .error _ => .unreadable
  | .ok pairs => .ofPairs (pairs.foldl (fun table (key, value) =>
      Registry.setEntry key value table) [])

/-- The values of an enum by checked keys. -/
def ofValues (values : List (String × Json)) : ValueMap :=
  .ofPairs (values.map fun (key, value) => (.str key, value))

end ValueMap

namespace Draft

/-- The draft with the properties that a customizer gave; nothing at all changes nothing. -/
def updated (form : TypeForm) (draft : Draft) (extra : Json) : Except Fault Draft := do
  if !extra.truthy then return draft
  return (← pairsOf extra).foldl (fun draft (property, value) =>
    match property with
    | .str property => draft.update form property value
    | _ => { draft with hasUnnamed := true }) draft

end Draft

namespace Build

/-- The draft after the customizer, if there is one, had its say. -/
def customize (setting : Setting) (name : String) (form : TypeForm) (draft : Draft) :
    Build Draft :=
  match setting.customize? with
  | none => return draft
  | some customize => do
    record (.customized name form)
    lift (draft.updated form (customize name form))

/-- The name of a type, if a type can be made of the draft. -/
def checkDraft (draft : Draft) : Except Fault String := do
  if draft.hasUnnamed then throw (.wrongKind .properties)
  let name ← checkName draft.hasUnknown draft.name
  if draft.additions.truthy && draft.additions.elements?.isNone then throw (.wrongKind .sequence)
  return name

def makeInfo (draft : Draft) : Build TypeInfo := do
  let name ← lift (checkDraft draft)
  let key ← freshKey
  return {
    key, name, description := draft.description, extensions := draft.extensions
    interfaces := draft.interfaces, fields? := draft.fields? }

end Build

/-! ### Enums -/

/-- Adds a literal under its key. A key seen before must stand for an equal literal. -/
def addValue (owner : String) (values : List (String × Json)) (literal : Json) :
    Except Fault (List (String × Json)) :=
  let key := Name.enumKey literal
  match values.lookup key with
  | none => .ok (values ++ [(key, literal)])
  | some stored =>
    if stored.equal literal then
      .ok (values.map fun (k, v) => if k == key then (k, literal) else (k, v))
    else .error (.valueClash stored literal key owner)

/-- The values of an enum by key, in the order in which the keys first occur. -/
def enumValues (owner : String) (literals : List Json) : Except Fault (List (String × Json)) :=
  literals.foldlM (addValue owner) []

namespace Build

/-- An enum, whose base type must be the text type. -/
def buildEnum (setting : Setting) (name : String) (site : Site) (literals : List Json)
    (base : Json) : Build GraphType := do
  let values ← lift (if base.equal (.str "string") then enumValues name literals
    else .error (.unsupportedEnum name))
  let draft ← customize setting name .enum
    { name := .str name, description := describe site.title site.description }
  record (.builtEnum name values.length)
  let info ← makeInfo draft
  return .enum info ((draft.values?.map .ofJson).getD (.ofValues values))

/-! ### Objects -/

/-- An object, with the plan for its fields queued first. -/
def buildObject (setting : Setting) (name : String) (site : Site) (required : List Json)
    (properties : List (String × Shape)) : Build GraphType := do
  let plan : FieldPlan := { key := ← freshKey, owner := name, required, properties, setting }
  defer plan
  let draft ← customize setting name .object
    { name := .str name, description := describe site.title site.description }
  record (.builtObject name)
  return .object (← makeInfo draft) plan

/-! ### All shapes -/

mutual

def buildType (setting : Setting) (position : String) : Shape → Build GraphType
  | .union site cases => do
    let name := Name.typeName position
    let members ← buildCases setting name cases
    record (.builtUnion name members.length)
    let draft : Draft :=
      { name := .str name, description := describe site.title site.description }
    return .union (← makeInfo draft) members
  | .object site required properties =>
    buildObject setting (Name.typeName position) site required properties
  | .array _ items => do
    let item ← buildType setting position items
    return .list (← freshKey) (.nonNull item)
  | .bareArray _ => throw (.missingItems (Name.typeName position))
  | .enum site literals base => buildEnum setting (Name.typeName position) site literals base
  | .reference _ target => do
    match ← find? target with
    | some type => return type
    | none => throw (.unresolvedReference target (Name.typeName position))
  | .primitive _ kind => return .scalar kind
  | .unrecognized _ type => throw (.unknownType type (Name.typeName position))

/-- The types for the cases of the union `owner`. -/
def buildCases (setting : Setting) (owner : String) :
    List (String × Shape) → Build (List GraphType)
  | [] => return []
  | (key, shape) :: rest => do
    let member ← buildType setting s!"{owner}.oneOf[{key}]" shape
    return member :: (← buildCases setting owner rest)

end

/-! ### Fields -/

/-- The fields for the properties of `owner`, after the fields in `done`. Two properties
must not share a field name. -/
def buildFields (setting : Setting) (owner : String) (required : List Json) (done : List Field) :
    List (String × Shape) → Build (List Field)
  | [] => return done
  | (property, shape) :: rest => do
    let name := Name.safe property
    match done.find? (·.name == name) with
    | some first => throw (.propertyClash (first.property?.getD "") property name owner)
    | none =>
      let type ← buildType setting s!"{owner}.{property}" shape
      let field : Field := {
        name
        type := if Shape.isRequired required property then .nonNull type else type
        description := describe shape.site.title shape.site.description
        property? := some property }
      buildFields setting owner required (done ++ [field]) rest

/-- The fields of a plan. An object without properties gets a placeholder. -/
def buildPlan (plan : FieldPlan) : Build FieldMap :=
  match plan.properties with
  | [] => return .placeholder (← lift (keyOf plan.setting.emptyField))
  | properties => do
    return .ofProperties (← buildFields plan.setting plan.owner plan.required [] properties)

/-- The fields of a plan, built at most once. -/
def fieldsOf (plan : FieldPlan) : Build FieldMap := do
  match (← get).built.lookup plan.key with
  | some fields => return fields
  | none =>
    let fields ← buildPlan plan
    modify fun registry => { registry with built := (plan.key, fields) :: registry.built }
    return fields

end Build
end SchemaGraph

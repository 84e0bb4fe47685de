import SchemaGraph.Batch
import SchemaGraph.Graph.Catalog
import SchemaGraph.Name.Plural

/-! Root types.

A root type is where a query, a mutation or a subscription enters the graph. By
default there is one root, for queries, with one field for each entry of the
registry: a list of the entry's type, named by the plural of the entry's
identifier (`defaultQuery`). Entries can be left out; two entries must not share a
field name. -/
namespace SchemaGraph

/-- What stands around the type of a root's field. -/
inductive Wrapping where
  | plain
  | list
  | nonNull
  deriving Repr, DecidableEq

/-- A field of a root; its name is checked when the graph is assembled. -/
structure RootField where
  name : Json
  wrapping : Wrapping
  type : GraphType

namespace RootField

def typeText (field : RootField) : String :=
  match field.wrapping with
  | .plain => field.type.text
  | .list => s!"[{field.type.text}]"
  | .nonNull => s!"{field.type.text}!"

end RootField

structure RootType where
  name : String
  fields : List RootField

structure Roots where
  query? : Option RootType := none
  mutation? : Option RootType := none
  subscription? : Option RootType := none

namespace RootType

/-- The fields' names, all of them legal. -/
def checkedNames (root : RootType) : Except Fault (List String) :=
  root.fields.mapM fun field => checkFieldName field.name

def make (name : Json) (fields : List RootField) : Except Fault RootType := do
  return { name := ← checkName false name, fields }

/-- Fields with `field` at the place of an earlier one of its name, if there is one. -/
def setField (field : RootField) : List RootField → List RootField
  | [] => [field]
  | first :: rest =>
    if Json.same first.name field.name then { field with name := first.name } :: rest
    else first :: setField field rest

end RootType

/-! ### The default root -/

/-- A part of a text. -/
def containsText (part : List Char) : List Char → Bool
  | [] => part.isEmpty
  | c :: rest => part.isPrefixOf (c :: rest) || containsText part rest

/-- An identifier among the excluded ones: an item of an array, a name of an object, or a
part of a text. -/
def isExcluded (exclude id : Json) : Except Fault Bool :=
  match exclude, id with
  | .arr items, _ => .ok (items.any (Json.same id))
  | .obj members, _ => .ok (members.any fun (name, _) => Json.same id (.str name))
  | .str text, .str part => .ok (containsText part.toList text.toList)
  | .str _, _ => .error (.wrongKind .text)
  | _, _ => .error (.wrongKind .sequence)

def queryFieldName (id : Json) : Except Fault String := do
  return Name.lowerFirst (Name.plural (Name.typeName (← positionOf id)))

/-- Adds the default query field for an entry, unless the entry is excluded. -/
def addQueryField (exclude : Json) (fields : List RootField) (entry : Json × GraphType) :
    Except Fault (List RootField) := do
  if ← isExcluded exclude entry.1 then return fields
  let name ← queryFieldName entry.1
  if fields.any fun field => Json.same field.name (.str name) then
    throw (.queryFieldClash name entry.1)
  return fields ++ [{ name := .str name, wrapping := .list, type := entry.2 }]

/-- The default query fields, one for each entry that is not excluded. -/
def defaultFields (entries : List (Json × GraphType)) (exclude : Json) :
    Except Fault (List RootField) :=
  entries.foldlM (addQueryField exclude) []

/-! ### Listed roots -/

/-- A root listed by the identifiers of its fields' types. -/
structure RootListing where
  name : Json
  /-- The name of each field, the identifier of its type, and what stands around it. No
  identifier stands for the text type. -/
  fields : List (Json × Json × Wrapping)

namespace RootListing

/-- The type that an identifier stands for among some entries. -/
def typeOf (entries : List (Json × GraphType)) (id : Json) : Except Fault GraphType :=
  if id.isNull then .ok (.scalar .string)
  else if !id.isKey then .error (.wrongKind .key)
  else match entries.find? fun (key, _) => Json.same key id with
    | some (_, type) => .ok type
    | none => .error .unknownName

/-- The root type for a listing. -/
def resolve (entries : List (Json × GraphType)) (listing : RootListing) :
    Except Fault RootType := do
  let fields ← listing.fields.foldlM (fun fields (name, id, wrapping) => do
    let type ← typeOf entries id
    if !name.isKey then throw (.wrongKind .key)
    return RootType.setField { name, wrapping, type } fields) []
  RootType.make listing.name fields

end RootListing

/-- How the roots of a graph come about. -/
inductive EntryPoints where
  | default
  /-- Roots by the operation that they serve; other operations are left out of the graph. -/
  | listed (roots : List (String × Option RootListing))

namespace EntryPoints

/-- The roots among listed ones, all of which must resolve. -/
def resolve (entries : List (Json × GraphType)) (roots : List (String × Option RootListing)) :
    Except Fault Roots := do
  let resolved ← roots.mapM fun (operation, listing?) => do
    return (operation, ← listing?.mapM (RootListing.resolve entries))
  let root? (operation : String) : Option RootType := (resolved.lookup operation).join
  return { query? := root? "query", mutation? := root? "mutation",
           subscription? := root? "subscription" }

end EntryPoints

namespace Build

/-- The default query root of the registry. -/
def defaultQuery (queryName exclude : Json) : Build RootType := do
  let fields ← lift (defaultFields (← get).entries exclude)
  record (.queryFields fields.length)
  lift (RootType.make queryName fields)

end Build
end SchemaGraph

import SchemaGraph.Graph.Building

/-! Reading a graph.

The fields of an object are read through its plan: built if they were not, and
then checked for legal names. What fails to build is not lost from the queue by
being read, and may be read again later.

A catalog lists the named types that can be reached from some given ones, nearest
first, each once. Types are told apart by identity, so two of one name are both
listed. The command itself lists none: a catalog is how a graph is looked at from
outside. -/
namespace SchemaGraph

def checkFieldName : Json → Except Fault String
  | .str name => match Name.flaw? name with
    | some flaw => .error (.badName flaw)
    | none => .ok name
  | .null => .error .nameMissing
  | _ => .error .nameNotText

def checkValueName (name : String) : Except Fault String :=
  match Name.valueFlaw? name with
  | some flaw => .error (.badName flaw)
  | none => .ok name

namespace FieldMap

/-- The fields, all with legal names. -/
def checked : FieldMap → Except Fault (List Field)
  | placeholder name => do
    let name ← checkFieldName name
    return [{ name, type := .scalar .string }]
  | ofProperties fields => do
    let _ ← fields.mapM fun field => checkFieldName (.str field.name)
    return fields

end FieldMap

/-- The fields that a value gives, all with legal names and of foreign types. -/
def givenFields : Json → Except Fault (List Field)
  | .obj members => members.mapM fun (name, value) => do
    return { name := ← checkFieldName (.str name), type := .foreign value }
  | _ => .error (.wrongKind .object)

namespace ValueMap

/-- The values, all with legal keys. -/
def checked : ValueMap → Except Fault (List (String × Json))
  | unreadable => .error (.wrongKind .properties)
  | ofPairs pairs => pairs.mapM fun (key, value) =>
    match key with
    | .str key => return (← checkValueName key, value)
    | .null => .error .nameMissing
    | _ => .error .nameNotText

end ValueMap

namespace Build

/-- The fields of an object as a reader of the graph finds them. -/
def readFields (info : TypeInfo) (plan : FieldPlan) : Build (List Field) := do
  match info.fields? with
  | some given => lift (givenFields given)
  | none =>
    let fields ← tryCatch (fieldsOf plan) fun fault => throw (.unreadableFields info.name fault)
    lift fields.checked

end Build

/-! ### Catalogs -/

/-- A named type as a catalog lists it. -/
inductive Listing where
  | object (info : TypeInfo) (fields : List Field)
  | union (info : TypeInfo) (members : List GraphType)
  | enum (info : TypeInfo) (values : List (String × Json))

/-- Types to list, none of them twice. -/
structure Agenda where
  waiting : List GraphType := []
  known : List GraphType.Identity := []

namespace Agenda

/-- Adds the named type inside `type`, unless it is known, a scalar or foreign. -/
def add (agenda : Agenda) (type : GraphType) : Agenda :=
  match type.named with
  | .scalar _ => agenda
  | .foreign _ => agenda
  | named =>
    if agenda.known.contains named.identity then agenda
    else ⟨agenda.waiting ++ [named], named.identity :: agenda.known⟩

def addAll (agenda : Agenda) (types : List GraphType) : Agenda := types.foldl add agenda

end Agenda

namespace Build

/-- Lists the waiting types and all that they lead to, at most `fuel` of them. -/
def listFrom (fuel : Nat) (agenda : Agenda) : Build (List Listing) := do
  match fuel, agenda.waiting with
  | 0, _ => return []
  | _, [] => return []
  | fuel + 1, type :: waiting =>
    let agenda := { agenda with waiting }
    match type with
    | .object info plan =>
      let fields ← readFields info plan
      let rest ← listFrom fuel (agenda.addAll (fields.map (·.type)))
      return .object info fields :: rest
    | .union info members =>
      return .union info members :: (← listFrom fuel (agenda.addAll members))
    | .enum info values =>
      let values ← lift values.checked
      return .enum info values :: (← listFrom fuel agenda)
    | _ => listFrom fuel agenda

/-- The named types that can be reached from `roots`. -/
def catalog (roots : List GraphType) : Build (List Listing) := do
  listFrom (← get).capacity (Agenda.addAll {} roots)

end Build
end SchemaGraph

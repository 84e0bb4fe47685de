import SchemaGraph.Schema.Assembly

/-! Validation of a schema.

A schema needs a query root, every object at least one field, every union at least
one member and every enum at least one value. The members of a union are objects,
each named once, every field has a type, and no name begins with two underscores.
There are no interfaces, so that nothing can stand for one. `Schema.problems` lists
all that is wrong, in the order of the definitions. -/
namespace SchemaGraph

inductive Problem where
  | noQuery
  | reservedName (name : String)
  | noFields (type : String)
  | noOutput (type field : String) (given : Json)
  | noInterface (type : String) (given : Json)
  | noMembers (type : String)
  | repeatedMember (type member : String)
  | noObject (type member : String)
  | noValues (type : String)
  deriving Repr

namespace Problem

def message : Problem → String
  | noQuery => "Query root type must be provided."
  | reservedName name =>
    s!"Name {Text.quoted name} must not begin with '__', which is reserved by GraphQL introspection."
  | noFields type => s!"Type {type} must define one or more fields."
  | noOutput type field given =>
    s!"The type of {type}.{field} must be Output Type but got: {given.written}."
  | noInterface type given =>
    s!"Type {type} must only implement Interface types, it cannot implement {given.written}."
  | noMembers type => s!"Union type {type} must define one or more member types."
  | repeatedMember type member => s!"Union type {type} can only include type {member} once."
  | noObject type member =>
    s!"Union type {type} can only include Object types, it cannot include {member}."
  | noValues type => s!"Enum type {type} must define one or more values."

end Problem

/-- A reserved name is a problem. -/
def nameProblems (name : String) : List Problem :=
  if name.startsWith "__" then [.reservedName name] else []

/-- The problems of a union's members after the ones named in `before`. -/
def memberProblems (union : String) (before : List String) : List GraphType → List Problem
  | [] => []
  | .object info _ :: rest =>
    if before.contains info.name then
      .repeatedMember union info.name :: memberProblems union before rest
    else memberProblems union (info.name :: before) rest
  | member :: rest => .noObject union member.text :: memberProblems union before rest

/-- The problems of a field of the object `owner`. -/
def fieldProblems (owner : String) (field : FieldDefinition) : List Problem :=
  nameProblems field.name ++ (field.foreign?.map (.noOutput owner field.name)).toList

namespace Definition

/-- The problems of a definition. A value of an enum with an illegal name is more than a
problem: it cannot be looked at. -/
def problems : Definition → Except Fault (List Problem)
  | scalar _ => .ok []
  | object name _ interfaces fields =>
    .ok (nameProblems name ++ (if fields.isEmpty then [.noFields name] else []) ++
      fields.flatMap (fieldProblems name) ++ interfaces.map (.noInterface name))
  | union name _ members =>
    .ok (nameProblems name ++ (if members.isEmpty then [.noMembers name] else []) ++
      memberProblems name [] members)
  | enum name _ values => do
    let values ← values.checked
    return nameProblems name ++ (if values.isEmpty then [.noValues name] else []) ++
      values.flatMap fun (value, _) => nameProblems value

end Definition

namespace Schema

def problems (schema : Schema) : Except Fault (List Problem) := do
  let inDefinitions ← schema.definitions.mapM Definition.problems
  return (if schema.query?.isNone then [.noQuery] else []) ++ inDefinitions.flatten

def validate (schema : Schema) : Except Fault Unit := do
  let problems ← schema.problems
  if problems.isEmpty then return else throw (.invalidGraph (problems.map Problem.message))

end Schema
end SchemaGraph

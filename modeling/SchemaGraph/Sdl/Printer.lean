import SchemaGraph.Schema.Assembly
import SchemaGraph.Sdl.Description

/-! Printing a schema.

A schema prints as a document of the schema definition language: its roots, unless
they go by the standard names, and then its definitions in order, with a blank
line between them. Scalars need no definition. Descriptions stand above what they
describe; below the first field, a described field is set off by a blank line. A
union whose members include a list cannot be printed, nor can an object with
something in the place of an interface. -/
namespace SchemaGraph.Sdl

/-- A described thing's description, on lines of its own with an indent. -/
def description (indent : String) (first : Bool) (text : Json) : String :=
  match text with
  | .null => ""
  | text =>
    let lead := if indent.isEmpty || first then indent else "\n" ++ indent
    let body := (descriptionText text.display).toList.flatMap fun c =>
      if c == '\n' then c :: indent.toList else [c]
    lead ++ String.ofList body ++ "\n"

/-- Lines between braces, or nothing if there are none. -/
def braces (lines : List String) : String :=
  if lines.isEmpty then "" else " \x7b\n" ++ "\n".intercalate lines ++ "\n\x7d"

def fieldLine (first : Bool) (field : FieldDefinition) : String :=
  description "  " first field.description ++ s!"  {field.name}: {field.type}"

/-- The lines for fields, the first one printed as such. -/
def fieldLines : List FieldDefinition → List String
  | [] => []
  | first :: rest => fieldLine true first :: rest.map (fieldLine false)

def memberName (member : GraphType) : Except Fault String :=
  match member.name? with
  | some name => .ok name
  | none => .error (.wrongKind .named)

/-- The block for a definition; scalars have none. -/
def definition? : Definition → Except Fault (Option String)
  | .scalar _ => .ok none
  | .object name text interfaces fields =>
    if interfaces.isEmpty then
      .ok (some (description "" true text ++ s!"type {name}" ++ braces (fieldLines fields)))
    else .error (.wrongKind .named)
  | .union name text members => do
    let names ← members.mapM memberName
    let choices := if names.isEmpty then "" else " = " ++ " | ".intercalate names
    return some (description "" true text ++ s!"union {name}" ++ choices)
  | .enum name text values => do
    let lines := (← values.checked).map fun (value, _) => "  " ++ value
    return some (description "" true text ++ s!"enum {name}" ++ braces lines)

/-- A root that goes by its standard name, or is missing along with that name. -/
def isStandard (schema : Schema) (standard : String) (root? : Option String) : Bool :=
  match root? with
  | some name => name == standard
  | none => !schema.names.contains standard

/-- The block for the roots, if it is needed. -/
def roots? (schema : Schema) : Option String :=
  let given := [("query", schema.query?), ("mutation", schema.mutation?),
    ("subscription", schema.subscription?)]
  let standard := isStandard schema "Query" schema.query? &&
    isStandard schema "Mutation" schema.mutation? &&
    isStandard schema "Subscription" schema.subscription?
  let lines := given.filterMap fun (operation, root?) =>
    root?.map fun name => s!"  {operation}: {name}"
  if lines.isEmpty || (schema.description.isNull && standard) then none
  else some (description "" true schema.description ++ "schema" ++ braces lines)

/-- The document for a schema, without a final line end. -/
def print (schema : Schema) : Except Fault String := do
  let definitions ← schema.definitions.mapM definition?
  return "\n\n".intercalate ((roots? schema :: definitions).filterMap id)

/-- A comment: every line behind a number sign. -/
def comment (text : String) : String :=
  "\n".intercalate ((Text.lines text.toList).map fun line => "# " ++ String.ofList line)

/-- The document for a schema, below a comment if there is one to make. -/
def document (schema : Schema) (heading : Json) : Except Fault String := do
  let body ← print schema
  if !heading.truthy then return body ++ "\n"
  match heading with
  | .str text => return comment text ++ "\n\n" ++ body ++ "\n"
  | _ => throw (.wrongKind .object)

end SchemaGraph.Sdl

import SchemaGraph.Schema.Assembly

/-! Changes to an assembled schema.

A pass over a schema can add to its description, describe one of its types, or take
the fields of an object away. The types that every schema has can be named too, but
nothing shows when they change. -/
namespace SchemaGraph

inductive Transform where
  | append (text : String)
  | describe (type : Json) (description : Json)
  | clear (type : Json)

namespace Definition

def withDescription (description : Json) : Definition → Definition
  | object name _ interfaces fields => object name description interfaces fields
  | union name _ members => union name description members
  | enum name _ values => enum name description values
  | scalar kind => scalar kind

/-- An object without its fields; any other definition as it is. -/
def cleared : Definition → Definition
  | object name description interfaces _ => object name description interfaces []
  | definition => definition

end Definition

namespace Schema

/-- Changes the definition of a name. -/
def modify (name : Json) (change : Definition → Definition) (schema : Schema) :
    Except Fault Schema :=
  match name with
  | .str name =>
    if schema.allNames.contains name then
      .ok { schema with definitions := schema.definitions.map fun definition =>
              if definition.name == name then change definition else definition }
    else .error .unknownName
  | other => .error (if other.isKey then .unknownName else .wrongKind .key)

def transform (schema : Schema) : Transform → Except Fault Schema
  | .append text =>
    let before := if schema.description.truthy then schema.description.display else ""
    .ok { schema with description := .str (before ++ text) }
  | .describe type description => schema.modify type (Definition.withDescription description)
  | .clear type => schema.modify type Definition.cleared

end Schema
end SchemaGraph

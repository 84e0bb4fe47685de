import SchemaGraph.Sdl.TypeUse
import SchemaGraph.Sdl.Value

/-! Directives.

A directive marks up a part of a document. Its definition says at which places it may
be put to use, how often, and with which arguments; `DirectiveRule` is what of that
matters to its uses. Five directives need no definition. -/
namespace SchemaGraph.Sdl

/-! ### Places -/

inductive DirectivePlace where
  | query
  | mutation
  | subscription
  | field
  | fragmentDefinition
  | fragmentSpread
  | inlineFragment
  | variableDefinition
  | fragmentVariableDefinition
  | schema
  | scalar
  | object
  | fieldDefinition
  | argumentDefinition
  | interface
  | union
  | enum
  | enumValue
  | inputObject
  | inputFieldDefinition
  | directiveDefinition
  deriving Repr, DecidableEq

namespace DirectivePlace

def title : DirectivePlace → String
  | query => "query"
  | mutation => "mutation"
  | subscription => "subscription"
  | field => "field"
  | fragmentDefinition => "fragment definition"
  | fragmentSpread => "fragment spread"
  | inlineFragment => "inline fragment"
  | variableDefinition => "variable definition"
  | fragmentVariableDefinition => "fragment variable definition"
  | schema => "schema"
  | scalar => "scalar"
  | object => "object"
  | fieldDefinition => "field definition"
  | argumentDefinition => "argument definition"
  | interface => "interface"
  | union => "union"
  | enum => "enum"
  | enumValue => "enum value"
  | inputObject => "input object"
  | inputFieldDefinition => "input field definition"
  | directiveDefinition => "directive definition"

/-- How a document calls the place: the title in capitals, with underscores for blanks. -/
def keyword (place : DirectivePlace) : String :=
  place.title.map fun c => if c == ' ' then '_' else c.toUpper

def all : List DirectivePlace :=
  [query, mutation, subscription, field, fragmentDefinition, fragmentSpread, inlineFragment,
    variableDefinition, fragmentVariableDefinition, schema, scalar, object, fieldDefinition,
    argumentDefinition, interface, union, enum, enumValue, inputObject, inputFieldDefinition,
    directiveDefinition]

def ofKeyword? (word : String) : Option DirectivePlace :=
  all.find? fun place => place.keyword == word

end DirectivePlace

/-! ### Uses -/

/-- An argument that is given, with the number of tokens before its value. -/
structure Argument where
  name : String
  value : Value
  index : Nat
  deriving Repr

/-- A directive that is put to use, with the number of tokens before it. -/
structure DirectiveUse where
  name : String
  arguments : List Argument
  index : Nat
  deriving Repr

/-! ### Rules -/

/-- What uses of a directive must keep to. -/
structure DirectiveRule where
  name : String
  places : List DirectivePlace
  /-- The names of its arguments. -/
  arguments : List String
  /-- The arguments that must be given, with their types. -/
  required : List (String × TypeUse)
  isRepeatable : Bool
  deriving Repr

namespace DirectiveRule

def builtIn : List DirectiveRule :=
  let selected := [DirectivePlace.field, .fragmentSpread, .inlineFragment]
  let condition := ("if", TypeUse.nonNull (.named "Boolean"))
  let address := ("url", TypeUse.nonNull (.named "String"))
  [⟨"include", selected, ["if"], [condition], false⟩,
    ⟨"skip", selected, ["if"], [condition], false⟩,
    ⟨"deprecated", [.directiveDefinition, .fieldDefinition, .argumentDefinition,
      .inputFieldDefinition, .enumValue], ["reason"], [], false⟩,
    ⟨"specifiedBy", [.scalar], ["url"], [address], false⟩,
    ⟨"oneOf", [.inputObject], [], [], false⟩]

end DirectiveRule
end SchemaGraph.Sdl

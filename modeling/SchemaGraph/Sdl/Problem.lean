import SchemaGraph.Sdl.Declaration
import SchemaGraph.Text.EditDistance

/-! What is wrong in a document that can be read.

A problem names what it is about and is worded by `Problem.message`. Where a name is
unknown, the known names that are nearest to it go with the problem. -/
namespace SchemaGraph.Sdl

inductive Problem where
  | secondSchema
  | secondRoot (operation : Operation)
  | secondType (name : String)
  | secondValue (type value : String)
  | secondField (type field : String)
  | secondArgument (owner argument : String)
  | secondDirective (name : String)
  | unknownType (name : String) (near : List String)
  | nothingToExtend (name : String) (near : List String)
  | otherKind (kind : TypeKind) (name : String)
  | unknownDirective (name : String)
  | misplacedDirective (name : String) (place : DirectivePlace)
  /-- A directive is put to use again where it can be used only once. -/
  | secondUse (directive : String)
  | unknownArgument (directive argument : String) (near : List String)
  | secondGiven (argument : String)
  | secondMember (field : String)
  | missingArgument (directive argument : String) (type : TypeUse)
  deriving Repr, DecidableEq

namespace Problem

def message : Problem → String
  | secondSchema => "Must provide only one schema definition."
  | secondRoot operation => s!"There can be only one {operation.keyword} type in schema."
  | secondType name => s!"There can be only one type named '{name}'."
  | secondValue type value => s!"Enum value '{type}.{value}' can only be defined once."
  | secondField type field => s!"Field '{type}.{field}' can only be defined once."
  | secondArgument owner argument =>
    s!"Argument '{owner}({argument}:)' can only be defined once."
  | secondDirective name => s!"There can be only one directive named '@{name}'."
  | unknownType name near => s!"Unknown type '{name}'." ++ Text.didYouMean near
  | nothingToExtend name near =>
    s!"Cannot extend type '{name}' because it is not defined." ++ Text.didYouMean near
  | otherKind kind name => s!"Cannot extend non-{kind.title} type '{name}'."
  | unknownDirective name => s!"Unknown directive '@{name}'."
  | misplacedDirective name place =>
    s!"Directive '@{name}' may not be used on {place.title}."
  | secondUse directive =>
    s!"The directive '@{directive}' can only be used once at this location."
  | unknownArgument directive argument near =>
    s!"Unknown argument '{argument}' on directive '@{directive}'." ++ Text.didYouMean near
  | secondGiven argument => s!"There can be only one argument named '{argument}'."
  | secondMember field => s!"There can be only one input field named '{field}'."
  | missingArgument directive argument type =>
    s!"Argument '@{directive}({argument}:)' of type '{type.text}' is required, " ++
      "but it was not provided."

end Problem
end SchemaGraph.Sdl

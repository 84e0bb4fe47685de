import SchemaGraph.Json.Reader
import SchemaGraph.MetaSchema.Pattern
import SchemaGraph.Name.Legal
import SchemaGraph.Sdl.Rejection

/-! What can go wrong.

Every way in which a document, a batch or a configuration is refused is a `Fault`
that carries its cause; `Fault.message` words it. Most faults name the position
that was being built. A value of the wrong kind is a fault of its own sort, with
what was expected in its place. -/
namespace SchemaGraph

/-- What a value of the wrong kind stands in place of. -/
inductive Expected where
  /-- An object, to look up its members. -/
  | object
  /-- An array, a text or an object, to go through. -/
  | sequence
  /-- A scalar, to look it up in a table. -/
  | key
  /-- A text. -/
  | text
  /-- Names that a type has properties of. -/
  | properties
  /-- An object type or another type with a name. -/
  | named
  /-- Something that can be asked for a report. -/
  | report
  deriving Repr, DecidableEq

namespace Expected

def title : Expected → String
  | object => "an object"
  | sequence => "an array, a text or an object"
  | key => "a scalar"
  | text => "a text"
  | properties => "properties that are known"
  | named => "a type with a name"
  | report => "a report"

end Expected

/-- The settings that take one of a few words. -/
inductive ModeSetting where
  | metaSchema
  | output
  deriving Repr, DecidableEq

namespace ModeSetting

def title : ModeSetting → String
  | metaSchema => "MetaSchemaMode"
  | output => "OutputMode"

end ModeSetting

inductive Fault where
  | missingIdentifier
  | duplicateIdentifier (id : Json)
  | unresolvedReference (target : Json) (owner : String)
  | unsupportedEnum (owner : String)
  | unknownType (type : Json) (owner : String)
  | missingItems (owner : String)
  | propertyClash (first second field owner : String)
  | valueClash (stored value : Json) (key owner : String)
  | queryFieldClash (field : String) (id : Json)
  | invalidDocument (problem : String) (id : Json)
  | invalidGraph (problems : List String)
  | badName (flaw : Name.Flaw)
  | nameMissing
  | nameNotText
  | reservedType (name : String)
  | duplicateType (name : String)
  /-- Something that is no type stands among the types of a schema. -/
  | nameless
  /-- A value stands where there should be interfaces to go through. -/
  | noInterfaces (value : Json)
  /-- An array or an object stands in the place of a type. -/
  | noType (value : Json)
  | unreadableFields (owner : String) (cause : Fault)
  | badText (fault : TextFault)
  | badMode (setting : ModeSetting) (value : Json)
  | wrongKind (expected : Expected)
  | unknownName
  | notAPair
  /-- A text may or may not be a pattern; nobody can tell. -/
  | unreadablePattern (flaw : Pattern.Flaw)
  /-- An address has a host that no address can have. -/
  | illegalHost
  /-- A number has too many digits. -/
  | tooLong
  | outputExists (path : String)
  | invalidSdl (rejection : Sdl.Rejection)
  /-- A text to be read ends too early. -/
  | cutText
  /-- A check of the caller's own refused the output. -/
  | refused (reason : String)
  | fileExists (path : String)
  | isDirectory
  | notDirectory
  | noSuchFile
  | nameTooLong
  | illegalPath
  /-- A directory in use was to be replaced. -/
  | busy
  /-- A text holds half a pair, which no file and no output takes. -/
  | unencodable
  deriving Repr, Inhabited

namespace Fault

def ofText (fault : TextFault) : Fault :=
  match fault.problem with
  | .longNumber => tooLong
  | _ => badText fault

/-- A message with the position it is about, if that says anything. -/
def located (message : String) (position : Json) : String :=
  if position.truthy then s!"{message} (at {position.display})" else message

def message : Fault → String
  | missingIdentifier => "Schema does not have an `$id` property."
  | duplicateIdentifier id =>
    located s!"Schema `$id` {id.display} is declared more than once." id
  | unresolvedReference target owner =>
    located s!"The referenced type {target.display} is unknown." (.str owner)
  | unsupportedEnum owner => located "Only string enums are supported." (.str owner)
  | unknownType type owner =>
    located s!"The type {type.display} on property {owner} is unknown." (.str owner)
  | missingItems owner =>
    located s!"The array on property {owner} has no `items`." (.str owner)
  | propertyClash first second field owner =>
    located s!"Properties '{first}' and '{second}' both map to field '{field}'." (.str owner)
  | valueClash stored value key owner =>
    located s!"Enum values {stored.written} and {value.written} both map to key '{key}'."
      (.str owner)
  | queryFieldClash field id => located s!"Two types produce the query field '{field}'." id
  | invalidDocument problem id => located s!"Schema is not a valid JSON Schema: {problem}" id
  | invalidGraph problems =>
    "Generated GraphQL schema is not valid: " ++ "; ".intercalate problems
  | badName flaw => flaw.message
  | nameMissing => "Must provide name."
  | nameNotText => "Expected name to be a string."
  | reservedType name => s!"Redefinition of reserved type {Text.quoted name}"
  | duplicateType name =>
    s!"Schema must contain uniquely named types but contains multiple types named {Text.quoted name}."
  | nameless => "One of the provided types for building the Schema is missing a name."
  | noInterfaces value => s!"'{value.kindWord}' object is not iterable"
  | noType value => s!"unhashable type: '{value.kindWord}'"
  | unreadableFields owner cause => s!"{owner} fields cannot be resolved. {cause.message}"
  | badText fault => fault.message
  | badMode setting value => s!"{value.written} is not a valid {setting.title}"
  | wrongKind expected => s!"A value stands in the place of {expected.title}."
  | unknownName => "Nothing goes by this name."
  | notAPair => "A value stands in the place of a pair."
  | unreadablePattern flaw => flaw.message
  | illegalHost => "An address has no legal host."
  | tooLong => "A number has too many digits."
  | outputExists path =>
    s!"Output file already exists: {path}. Use force mode to overwrite."
  | invalidSdl rejection => s!"Generated SDL is not valid: {rejection.message}"
  | cutText => "A text ends too early."
  | refused reason => reason
  | fileExists path => s!"[Errno 17] File exists: {Text.quoted path}"
  | isDirectory => "A directory stands in the place of a file."
  | notDirectory => "A file stands in the place of a directory."
  | noSuchFile => "There is no such file."
  | nameTooLong => "A file name is too long."
  | illegalPath => "A path has a character that no path can have."
  | busy => "A directory in use cannot be replaced."
  | unencodable => "A text holds half a pair."

end Fault
end SchemaGraph

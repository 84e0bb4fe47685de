import SchemaGraph.MetaSchema.Address
import SchemaGraph.MetaSchema.Rule

/-! The drafts of JSON Schema.

A document names the meta-schema it follows by an address. The tables give each
meta-schema's keywords in the order in which they are checked. A document that
names none, or one that is not known here, is held to draft 7. -/
namespace SchemaGraph.MetaSchema

/-! ### Rules that the drafts share -/

namespace Rule

def kind (kind : Kind) : Rule := typed [.kind kind]

def string : Rule := kind .string
def boolean : Rule := kind .boolean
def number : Rule := kind .number

def count : Rule := all [kind .integer, atLeastZero]
def factor : Rule := all [number, aboveZero]
def expression : Rule := all [string, regex]

def schemas : Rule := all [kind .array, nonEmpty, items schema]

def strings : Rule := all [kind .array, items string, distinct]

def someStrings : Rule := all [kind .array, items string, nonEmpty, distinct]

def schemaTable : Rule := all [kind .object, members schema]

def patternTable : Rule := all [kind .object, members schema, names regex]

def dependencyTable (list : Rule) : Rule := all [kind .object, members (either [schema, list])]

/-- The words for types, or an array of different ones. -/
def simpleType : Rule :=
  words ["array", "boolean", "integer", "null", "number", "object", "string"]

def typeNames : Rule :=
  either [simpleType, all [kind .array, items simpleType, nonEmpty, distinct]]

/-- An address without a fragment; an empty one may follow. -/
def plainAddress : Rule :=
  all [string, fits "^[^#]*#?$" fun text =>
    match text.dropWhile (· != '#') with
    | [] => true
    | ['#'] => true
    | ['#', '\n'] => true
    | _ => false]

/-- A text made of a first character and more of another class, before a last line feed. -/
def spelled (isFirst isMore : Char → Bool) (text : List Char) : Bool :=
  let text := if text.getLast? == some '\n' then text.dropLast else text
  match text with
  | c :: rest => isFirst c && rest.all isMore
  | [] => false

end Rule

open Rule

/-- The words for the keywords that hold schemas for a part of the value. -/
def branches : List (String × Rule) :=
  [("if", schema), ("then", schema), ("else", schema), ("allOf", schemas), ("anyOf", schemas),
    ("oneOf", schemas), ("not", schema)]

def limits : List (String × Rule) :=
  [("multipleOf", factor), ("maximum", number), ("exclusiveMaximum", number), ("minimum", number),
    ("exclusiveMinimum", number), ("maxLength", count), ("minLength", count),
    ("pattern", expression)]

/-! ### The drafts -/

def draft3 : Draft where
  kinds := [.object]
  wholeFloats := false
  needs := [("exclusiveMinimum", "minimum"), ("exclusiveMaximum", "maximum")]
  keywords := [
    ("type", all [typed [.kind .string, .kind .array], items (typed [.kind .string, .schema]),
      distinct]),
    ("properties", schemaTable), ("patternProperties", schemaTable),
    ("additionalProperties", typed [.schema, .kind .boolean]),
    ("items", all [typed [.schema, .kind .array], items schema]),
    ("additionalItems", typed [.schema, .kind .boolean]),
    ("required", boolean),
    ("dependencies", all [kind .object,
      members (all [typed [.kind .string, .kind .array, .schema], items string])]),
    ("minimum", number), ("maximum", number), ("exclusiveMinimum", boolean),
    ("exclusiveMaximum", boolean), ("minItems", count), ("maxItems", count),
    ("uniqueItems", boolean), ("pattern", expression), ("minLength", count),
    ("maxLength", kind .integer), ("enum", all [kind .array, nonEmpty, distinct]),
    ("title", string), ("description", string), ("format", string), ("divisibleBy", factor),
    ("disallow", all [typed [.kind .string, .kind .array], items (typed [.kind .string, .schema]),
      distinct]),
    ("extends", all [typed [.schema, .kind .array], items schema]),
    ("id", string), ("$ref", string), ("$schema", string)]

def draft4 : Draft where
  kinds := [.object]
  wholeFloats := false
  needs := [("exclusiveMaximum", "maximum"), ("exclusiveMinimum", "minimum")]
  keywords := [
    ("id", string), ("$schema", string), ("title", string), ("description", string),
    ("multipleOf", factor), ("maximum", number), ("exclusiveMaximum", boolean),
    ("minimum", number), ("exclusiveMinimum", boolean), ("maxLength", count),
    ("minLength", count), ("pattern", expression),
    ("additionalItems", either [boolean, schema]), ("items", either [schema, schemas]),
    ("maxItems", count), ("minItems", count), ("uniqueItems", boolean),
    ("maxProperties", count), ("minProperties", count), ("required", someStrings),
    ("additionalProperties", either [boolean, schema]), ("definitions", schemaTable),
    ("properties", schemaTable), ("patternProperties", schemaTable),
    ("dependencies", dependencyTable someStrings),
    ("enum", all [kind .array, nonEmpty, distinct]), ("type", typeNames), ("format", string),
    ("allOf", schemas), ("anyOf", schemas), ("oneOf", schemas), ("not", schema)]

def draft6 : Draft where
  kinds := [.object, .boolean]
  keywords := [
    ("$id", string), ("$schema", string), ("$ref", string), ("title", string),
    ("description", string), ("examples", kind .array)] ++ limits ++ [
    ("additionalItems", schema), ("items", either [schema, schemas]), ("maxItems", count),
    ("minItems", count), ("uniqueItems", boolean), ("contains", schema),
    ("maxProperties", count), ("minProperties", count), ("required", strings),
    ("additionalProperties", schema), ("definitions", schemaTable), ("properties", schemaTable),
    ("patternProperties", patternTable), ("dependencies", dependencyTable strings),
    ("propertyNames", schema), ("enum", kind .array), ("type", typeNames), ("format", string),
    ("allOf", schemas), ("anyOf", schemas), ("oneOf", schemas), ("not", schema)]

def draft7 : Draft where
  kinds := [.object, .boolean]
  keywords := [
    ("$id", string), ("$schema", string), ("$ref", string), ("$comment", string),
    ("title", string), ("description", string), ("readOnly", boolean),
    ("examples", kind .array)] ++ limits ++ [
    ("additionalItems", schema), ("items", either [schema, schemas]), ("maxItems", count),
    ("minItems", count), ("uniqueItems", boolean), ("contains", schema),
    ("maxProperties", count), ("minProperties", count), ("required", strings),
    ("additionalProperties", schema), ("definitions", schemaTable), ("properties", schemaTable),
    ("patternProperties", patternTable), ("dependencies", dependencyTable strings),
    ("propertyNames", schema), ("enum", kind .array), ("type", typeNames), ("format", string),
    ("contentMediaType", string), ("contentEncoding", string)] ++ branches

/-- The keywords of later drafts that say which vocabularies a schema uses. -/
def vocabulary : Rule := all [kind .object, members boolean]

def draft2019 : Draft where
  kinds := [.object, .boolean]
  keywords := [
    ("$id", plainAddress), ("$schema", string),
    ("$anchor", all [string, fits "^[A-Za-z][-A-Za-z0-9.:_]*$" (spelled Char.isAlpha fun c =>
      c.isAlphanum || ['-', '.', ':', '_'].contains c)]),
    ("$ref", string), ("$recursiveRef", string), ("$recursiveAnchor", boolean),
    ("$vocabulary", vocabulary), ("$comment", string), ("$defs", schemaTable),
    ("additionalItems", schema), ("unevaluatedItems", schema),
    ("items", either [schema, schemas]), ("contains", schema), ("additionalProperties", schema),
    ("unevaluatedProperties", schema), ("properties", schemaTable),
    ("patternProperties", patternTable), ("dependentSchemas", schemaTable),
    ("propertyNames", schema)] ++ branches ++ limits ++ [
    ("maxItems", count), ("minItems", count), ("uniqueItems", boolean), ("maxContains", count),
    ("minContains", count), ("maxProperties", count), ("minProperties", count),
    ("required", strings), ("dependentRequired", all [kind .object, members strings]),
    ("enum", kind .array), ("type", typeNames), ("title", string), ("description", string),
    ("deprecated", boolean), ("readOnly", boolean), ("writeOnly", boolean),
    ("examples", kind .array), ("format", string), ("contentMediaType", string),
    ("contentEncoding", string), ("contentSchema", schema), ("definitions", schemaTable),
    ("dependencies", dependencyTable strings)]

def anchor : Rule :=
  all [string, fits "^[A-Za-z_][-A-Za-z0-9._]*$" (spelled (fun c => c.isAlpha || c == '_')
    fun c => c.isAlphanum || ['-', '.', '_'].contains c)]

def draft2020 : Draft where
  kinds := [.object, .boolean]
  keywords := [
    ("$id", plainAddress), ("$schema", string), ("$ref", string), ("$anchor", anchor),
    ("$dynamicRef", string), ("$dynamicAnchor", anchor), ("$vocabulary", vocabulary),
    ("$comment", string), ("$defs", schemaTable), ("prefixItems", schemas), ("items", schema),
    ("contains", schema), ("additionalProperties", schema), ("properties", schemaTable),
    ("patternProperties", patternTable), ("dependentSchemas", schemaTable),
    ("propertyNames", schema)] ++ branches ++ [
    ("unevaluatedItems", schema), ("unevaluatedProperties", schema), ("type", typeNames),
    ("enum", kind .array)] ++ limits ++ [
    ("maxItems", count), ("minItems", count), ("uniqueItems", boolean), ("maxContains", count),
    ("minContains", count), ("maxProperties", count), ("minProperties", count),
    ("required", strings), ("dependentRequired", all [kind .object, members strings]),
    ("title", string), ("description", string), ("deprecated", boolean), ("readOnly", boolean),
    ("writeOnly", boolean), ("examples", kind .array), ("format", string),
    ("contentEncoding", string), ("contentMediaType", string), ("contentSchema", schema),
    ("definitions", schemaTable), ("dependencies", dependencyTable strings),
    ("$recursiveAnchor", anchor), ("$recursiveRef", string)]

def drafts : List (String × Draft) := [
  ("http://json-schema.org/draft-03/schema", draft3),
  ("http://json-schema.org/draft-04/schema", draft4),
  ("http://json-schema.org/draft-06/schema", draft6),
  ("http://json-schema.org/draft-07/schema", draft7),
  ("https://json-schema.org/draft/2019-09/schema", draft2019),
  ("https://json-schema.org/draft/2020-12/schema", draft2020)]

/-! ### Choosing a draft -/

def draftAt (address : Json) : Except Fault Draft :=
  match address with
  | .str text => do return (drafts.lookup (← Address.ofText text).text).getD draft7
  | .arr _ => .error (.wrongKind .key)
  | .obj _ => .error (.wrongKind .key)
  | other => if other.truthy then .error (.wrongKind .object) else .ok draft7

def draftOf (document : Json) : Except Fault Draft :=
  match document with
  | .bool _ => .ok draft7
  | .obj _ => match document.member? "$schema" with
    | some address => draftAt address
    | none => .ok draft7
  | .arr values =>
    if values.any (·.same (.str "$schema")) then .error (.wrongKind .key) else .ok draft7
  | .str text =>
    if (text.splitOn "$schema").length > 1 then .error (.wrongKind .key) else .ok draft7
  | _ => .error (.wrongKind .sequence)

/-- The first problem that the meta-schema of a document has with it. -/
def problem? (document : Json) : Verdict := do
  let draft ← draftOf document
  first? (check draft .schema document)

end SchemaGraph.MetaSchema

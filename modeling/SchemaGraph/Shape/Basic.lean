import SchemaGraph.Json.Basic

/-! Shapes of schemas.

A schema describes a value by one of a few shapes, and everything it nests by
shapes again. References are kept as they are written: a shape says nothing about
other documents. -/
namespace SchemaGraph

/-- The scalar kinds that schemas and graphs share. -/
inductive Scalar where
  | string
  | integer
  | number
  | boolean
  deriving Repr, DecidableEq

namespace Scalar

def keyword : Scalar → String
  | string => "string"
  | integer => "integer"
  | number => "number"
  | boolean => "boolean"

def typeName : Scalar → String
  | string => "String"
  | integer => "Int"
  | number => "Float"
  | boolean => "Boolean"

def ofKeyword? : String → Option Scalar
  | "string" => some string
  | "integer" => some integer
  | "number" => some number
  | "boolean" => some boolean
  | _ => none

theorem ofKeyword?_keyword (kind : Scalar) : ofKeyword? kind.keyword = some kind := by
  cases kind <;> rfl

end Scalar

/-- Where a schema stands in its document and what it says about itself. -/
structure Site where
  path : String
  title : Json := .null
  description : Json := .null
  deriving Repr

/-- The shape of a schema. Cases and properties are in the order of the document. -/
inductive Shape where
  | union (site : Site) (cases : List (String × Shape))
  | object (site : Site) (required : List Json) (properties : List (String × Shape))
  | array (site : Site) (items : Shape)
  /-- An array that says nothing about its items. -/
  | bareArray (site : Site)
  | enum (site : Site) (values : List Json) (base : Json)
  | reference (site : Site) (target : Json)
  | primitive (site : Site) (kind : Scalar)
  /-- None of the shapes above; `type` is what the schema gives as its type. -/
  | unrecognized (site : Site) (type : Json)
  deriving Repr

namespace Shape

def site : Shape → Site
  | union site _ => site
  | object site _ _ => site
  | array site _ => site
  | bareArray site => site
  | enum site _ _ => site
  | reference site _ => site
  | primitive site _ => site
  | unrecognized site _ => site

/-- A property that its object lists as required. -/
def isRequired (required : List Json) (property : String) : Bool :=
  required.any (·.equal (.str property))

/-! ### Counting -/

mutual

/-- Object shapes in the tree. -/
def objects : Shape → Nat
  | union _ cases => objectsIn cases
  | object _ _ properties => 1 + objectsIn properties
  | array _ items => objects items
  | _ => 0

def objectsIn : List (String × Shape) → Nat
  | [] => 0
  | (_, shape) :: rest => objects shape + objectsIn rest

end

mutual

/-- Shapes in the tree, this one included. -/
def nodes : Shape → Nat
  | union _ cases => 1 + nodesIn cases
  | object _ _ properties => 1 + nodesIn properties
  | array _ items => 1 + nodes items
  | _ => 1

def nodesIn : List (String × Shape) → Nat
  | [] => 0
  | (_, shape) :: rest => nodes shape + nodesIn rest

end

end Shape
end SchemaGraph

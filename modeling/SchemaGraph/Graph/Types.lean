import SchemaGraph.Json.Display
import SchemaGraph.Shape.Basic

/-! Graph types.

A type of the graph is a scalar, a named object, union or enum, or a list or
non-null wrapper around another type. A reference is no type of its own: where a
schema refers to another one, the other one's type stands, and it is recognised by
its key.

A customizer may put a plain value where a type belongs. Such a value is kept as a
`foreign` type, which has no name and of which no schema can be made.

An object does not hold its fields. It holds a `FieldPlan`: the properties it was
declared with and everything else needed to build the fields later, when the
types that its properties refer to exist. So a type is a finite tree even where
the graph is cyclic, and every cycle passes through the fields of an object. -/
namespace SchemaGraph

/-- The forms of type whose properties can be customized. -/
inductive TypeForm where
  | object
  | enum
  deriving Repr, DecidableEq

namespace TypeForm

def word : TypeForm → String
  | object => "object"
  | enum => "enum"

end TypeForm

/-- Extra properties for a type, by its name and form. -/
abbrev Customizer := String → TypeForm → Json

/-- What the compilation of a document depends on beside the document. -/
structure Setting where
  /-- The name of the placeholder field of an object without properties. -/
  emptyField : Json := .str "_empty"
  customize? : Option Customizer := none

/-- The fields of an object that are yet to be built. -/
structure FieldPlan where
  /-- Tells this plan from all others. -/
  key : Nat
  /-- The name of the position that the object was declared at. -/
  owner : String
  required : List Json
  properties : List (String × Shape)
  setting : Setting

namespace FieldPlan

/-- Objects that building the plan's fields, and then the fields of those, can call for,
the plan's own object included. -/
def weight (plan : FieldPlan) : Nat := 1 + Shape.objectsIn plan.properties

end FieldPlan

/-- What named types have in common. -/
structure TypeInfo where
  /-- Tells this type from all others; two types may have one name. -/
  key : Nat
  name : String
  description : Json
  extensions : Json
  /-- What stands for the interfaces of an object. -/
  interfaces : Json := .null
  /-- What stands for the fields of an object in place of the planned ones. -/
  fields? : Option Json := none

inductive ValueMap where
  /-- Values by key, as they are given; the keys are not checked yet. -/
  | ofPairs (pairs : List (Json × Json))
  /-- Something that gives no values. -/
  | unreadable

inductive GraphType where
  | scalar (kind : Scalar)
  | object (info : TypeInfo) (plan : FieldPlan)
  | union (info : TypeInfo) (members : List GraphType)
  | enum (info : TypeInfo) (values : ValueMap)
  | foreign (value : Json)
  | list (key : Nat) (item : GraphType)
  | nonNull (item : GraphType)

instance : Inhabited GraphType := ⟨.scalar .string⟩

namespace GraphType

/-- The type in the notation of the schema language. -/
def text : GraphType → String
  | scalar kind => kind.typeName
  | object info _ => info.name
  | union info _ => info.name
  | enum info _ => info.name
  | foreign value => value.display
  | list _ item => s!"[{item.text}]"
  | nonNull item => s!"{item.text}!"

/-- The type inside all wrappers. -/
def named : GraphType → GraphType
  | list _ item => item.named
  | nonNull item => item.named
  | type => type

def name? : GraphType → Option String
  | scalar kind => some kind.typeName
  | object info _ => some info.name
  | union info _ => some info.name
  | enum info _ => some info.name
  | foreign _ => none
  | list _ _ => none
  | nonNull _ => none

/-- What tells a type from all others. Foreign types are all alike. -/
inductive Identity where
  | scalar (kind : Scalar)
  | keyed (key : Nat)
  | foreign
  | nonNull (item : Identity)
  deriving Repr, DecidableEq

def identity : GraphType → Identity
  | scalar kind => .scalar kind
  | object info _ => .keyed info.key
  | union info _ => .keyed info.key
  | enum info _ => .keyed info.key
  | foreign _ => .foreign
  | list key _ => .keyed key
  | nonNull item => .nonNull item.identity

end GraphType

structure Field where
  name : String
  type : GraphType
  description : Json := .null
  /-- The property that the field reads; the placeholder reads none. -/
  property? : Option String := none

namespace Field

/-- A field whose property goes by another name. -/
def isRenamed (field : Field) : Bool := field.property?.any (· != field.name)

/-- What a renamed field reads from a source: its own property, or null from a source that
has none. A field under its own name reads by that name and needs no resolver. -/
def resolve (field : Field) (source : Json) : Json :=
  match field.property? with
  | some property => if field.isRenamed then source.member property else .null
  | none => .null

end Field

/-- The built fields of an object. -/
inductive FieldMap where
  /-- The one field of an object without properties, whose name is not checked yet. -/
  | placeholder (name : Json)
  | ofProperties (fields : List Field)

end SchemaGraph

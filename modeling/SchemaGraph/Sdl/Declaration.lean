import SchemaGraph.Sdl.Directive

/-! What a document declares.

A document is a list of declarations: types, the operations and their root types,
and directives. A type may be declared bit by bit, by declarations that extend it,
and so may the roots and a directive. Operations and fragments may stand among the
declarations; they declare nothing, but what they name has to be there. -/
namespace SchemaGraph.Sdl

/-! ### Parts of types -/

/-- An argument, or a field of an input type. -/
structure ArgumentDeclaration where
  name : String
  type : TypeUse
  default? : Option Value := none
  directives : List DirectiveUse := []
  deriving Repr

namespace ArgumentDeclaration

def isRequired (argument : ArgumentDeclaration) : Bool :=
  argument.type.forbidsNull && argument.default?.isNone

end ArgumentDeclaration

structure FieldDeclaration where
  name : String
  arguments : List ArgumentDeclaration
  type : TypeUse
  directives : List DirectiveUse := []
  deriving Repr

structure ValueDeclaration where
  name : String
  directives : List DirectiveUse := []
  deriving Repr

/-! ### Types -/

inductive TypeKind where
  | scalar
  | object
  | interface
  | union
  | enum
  | input
  deriving Repr, DecidableEq

namespace TypeKind

def keyword : TypeKind → String
  | scalar => "scalar"
  | object => "type"
  | interface => "interface"
  | union => "union"
  | enum => "enum"
  | input => "input"

def title : TypeKind → String
  | object => "object"
  | input => "input object"
  | kind => kind.keyword

def all : List TypeKind := [scalar, object, interface, union, enum, input]

def ofKeyword? (word : String) : Option TypeKind := all.find? fun kind => kind.keyword == word

theorem ofKeyword?_keyword (kind : TypeKind) : ofKeyword? kind.keyword = some kind := by
  cases kind <;> decide

def place : TypeKind → DirectivePlace
  | scalar => .scalar
  | object => .object
  | interface => .interface
  | union => .union
  | enum => .enum
  | input => .inputObject

end TypeKind

/-- A type, or more of a type that is declared elsewhere. -/
structure TypeDeclaration where
  kind : TypeKind
  isExtension : Bool
  name : String
  interfaces : List String := []
  directives : List DirectiveUse := []
  fields : List FieldDeclaration := []
  /-- The fields of an input type. -/
  inputs : List ArgumentDeclaration := []
  members : List String := []
  values : List ValueDeclaration := []
  deriving Repr

/-! ### Directives -/

structure DirectiveDeclaration where
  name : String
  arguments : List ArgumentDeclaration
  directives : List DirectiveUse
  isRepeatable : Bool
  places : List DirectivePlace
  deriving Repr

namespace DirectiveDeclaration

/-- What the declaration asks of uses. Of two arguments of one name the last one counts, at
the place of the first. -/
def rule (directive : DirectiveDeclaration) : DirectiveRule :=
  let required := directive.arguments.filter (·.isRequired)
  { name := directive.name
    places := directive.places
    arguments := directive.arguments.map (·.name)
    required := (required.map (·.name)).eraseDups.filterMap fun name =>
      (required.reverse.find? fun argument => argument.name == name).map fun argument =>
        (name, argument.type)
    isRepeatable := directive.isRepeatable }

end DirectiveDeclaration

/-! ### Operations -/

/-- What is asked of a type's value. -/
inductive Selection where
  | field (arguments : List Argument) (directives : List DirectiveUse)
      (selections : List Selection)
  /-- The selections of a fragment. -/
  | spread (directives : List DirectiveUse)
  /-- Selections for values of one type, or of any. -/
  | part (type? : Option String) (directives : List DirectiveUse)
      (selections : List Selection)
  deriving Repr

structure VariableDeclaration where
  type : TypeUse
  default? : Option Value
  directives : List DirectiveUse
  deriving Repr

/-- The operations that have a root type. -/
inductive Operation where
  | query
  | mutation
  | subscription
  deriving Repr, DecidableEq

namespace Operation

def keyword : Operation → String
  | query => "query"
  | mutation => "mutation"
  | subscription => "subscription"

def ofKeyword? (word : String) : Option Operation :=
  [query, mutation, subscription].find? fun operation => operation.keyword == word

def place : Operation → DirectivePlace
  | query => .query
  | mutation => .mutation
  | subscription => .subscription

end Operation

/-! ### Declarations -/

inductive Declaration where
  | type (declaration : TypeDeclaration)
  /-- Operations and their root types. -/
  | roots (isExtension : Bool) (directives : List DirectiveUse)
      (operations : List (Operation × String))
  | directive (declaration : DirectiveDeclaration)
  /-- More of a directive that is declared elsewhere. -/
  | directiveExtension (name : String) (directives : List DirectiveUse)
  | operation (kind : Operation) (inputs : List VariableDeclaration)
      (directives : List DirectiveUse) (selections : List Selection)
  | fragment (type : String) (directives : List DirectiveUse) (selections : List Selection)
  deriving Repr

namespace Declaration

def type? : Declaration → Option TypeDeclaration
  | type declaration => some declaration
  | _ => none

/-- The type declared, by a declaration that is no extension. -/
def newType? : Declaration → Option TypeDeclaration
  | type declaration => if declaration.isExtension then none else some declaration
  | _ => none

def directive? : Declaration → Option DirectiveDeclaration
  | directive declaration => some declaration
  | _ => none

/-- The operations that a declaration gives root types. -/
def operations : Declaration → List Operation
  | roots _ _ operations => operations.map (·.1)
  | _ => []

/-- Declares the roots, by a declaration that is no extension. -/
def isSchema : Declaration → Bool
  | roots isExtension _ _ => !isExtension
  | _ => false

end Declaration
end SchemaGraph.Sdl

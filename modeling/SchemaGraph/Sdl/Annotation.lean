import SchemaGraph.Sdl.Check

/-! Directives that say something of a schema.

Two directives are more than marks: one gives the reason why a part of a schema should
not be used any more, and one the address at which a scalar is specified. Both take a
text. A value that is no text has no place in a schema (`misfits`), even where the
document declares the directive anew with an argument of another type. What stands on
the values of an enum is not read. -/
namespace SchemaGraph.Sdl

/-! ### Arguments -/

/-- Why an argument cannot be read as a text. -/
inductive MisfitCause where
  | notText (value : Value)
  | null
  | missing
  deriving Repr

/-- An argument that cannot be read as a text, with the number of tokens before the
place to show. -/
structure Misfit where
  /-- The type whose fields cannot be read because of it. -/
  owner? : Option String := none
  argument : String
  cause : MisfitCause
  index : Nat
  deriving Repr

namespace Misfit

/-- The wording of a misfit, but for its place. -/
def message (misfit : Misfit) : String :=
  let lead := match misfit.owner? with
    | some owner => s!"{owner} fields cannot be resolved. "
    | none => ""
  lead ++ match misfit.cause with
    | .notText value =>
      s!"Argument '{misfit.argument}' has invalid value: " ++
        s!"String cannot represent a non string value: {value.text}"
    | .null =>
      s!"Argument '{misfit.argument}' has invalid value: " ++
        "Expected value of non-null type 'String!' not to be None."
    | .missing => s!"Argument '{misfit.argument}' of required type 'String!' was not provided."

end Misfit

/-- What keeps an argument of a directive from being read as a text. -/
def misfit? (argument : String) (isRequired : Bool) (use : DirectiveUse) : Option Misfit :=
  match use.arguments.find? fun given => given.name == argument with
  | none => if isRequired then some { argument, cause := .missing, index := use.index } else none
  | some given =>
    match given.value with
    | .string _ => none
    | .block _ => none
    | .null => some { argument, cause := .null, index := given.index }
    | value => some { argument, cause := .notText value, index := given.index }

/-- What keeps the first directive of a name among some from being read. -/
def misfitsOn (directive argument : String) (isRequired : Bool) (uses : List DirectiveUse) :
    List Misfit :=
  ((uses.find? fun use => use.name == directive).bind (misfit? argument isRequired)).toList

def deprecationMisfits (uses : List DirectiveUse) : List Misfit :=
  misfitsOn "deprecated" "reason" false uses

def addressMisfits (uses : List DirectiveUse) : List Misfit :=
  misfitsOn "specifiedBy" "url" true uses

/-! ### Declarations -/

def argumentMisfits (arguments : List ArgumentDeclaration) : List Misfit :=
  arguments.flatMap fun argument => deprecationMisfits argument.directives

def fieldMisfits (fields : List FieldDeclaration) : List Misfit :=
  fields.flatMap fun field =>
    argumentMisfits field.arguments ++ deprecationMisfits field.directives

/-- The misfits in the fields of a type, extensions included. -/
def typeMisfits (document : Document) (declaration : TypeDeclaration) : List Misfit :=
  let extensions := (document.filterMap Declaration.type?).filter fun other =>
    other.isExtension && other.name == declaration.name
  (declaration :: extensions).flatMap fun part =>
    (fieldMisfits part.fields ++ argumentMisfits part.inputs).map fun misfit =>
      { misfit with owner? := some declaration.name }

/-- The misfits in a document. Scalars are read first, then directives, then the fields of
types. Of types that are built in, nothing is read. -/
def misfits (document : Document) : List Misfit :=
  let types := (document.filterMap Declaration.newType?).filter fun declaration =>
    !builtInTypes.contains declaration.name
  let scalars := types.filter (·.kind == .scalar)
  let directives := document.filterMap Declaration.directive?
  scalars.flatMap (fun scalar => addressMisfits scalar.directives) ++
    directives.flatMap (fun directive =>
      argumentMisfits directive.arguments ++ deprecationMisfits directive.directives) ++
    types.flatMap (typeMisfits document)

end SchemaGraph.Sdl

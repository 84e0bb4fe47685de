import SchemaGraph.Sdl.Problem

/-! Checking what a document names.

What a document names has to fit together: nothing is declared twice, every type in
use is declared or built in, what is extended is declared as a type of that kind, and
directives are put to use as their rules want it. Nothing else is asked: a type may
be empty, a union may have any types for members, and the query type may be missing.

`problems` goes through a document from the start to the end. The problems of a
declaration itself come before those of its parts, and a directive that lacks an
argument is found out only behind the arguments it has. -/
namespace SchemaGraph.Sdl

/-- The types that need no declaration. -/
def builtInTypes : List String :=
  ["String", "Int", "Float", "Boolean", "ID", "__Schema", "__Directive", "__DirectiveLocation",
    "__Type", "__Field", "__InputValue", "__EnumValue", "__TypeKind"]

/-! ### Names -/

/-- The names that were met before: among `taken`, or earlier in the list. -/
def repeats {α : Type} [BEq α] (taken : List α) : List α → List α
  | [] => []
  | name :: rest =>
    if taken.contains name then name :: repeats taken rest else repeats (name :: taken) rest

/-- The names that a list holds more than once. -/
def duplicates (names : List String) : List String :=
  names.eraseDups.filter fun name => 1 < names.count name

def TypeDeclaration.fieldNames (declaration : TypeDeclaration) : List String :=
  declaration.fields.map (·.name) ++ declaration.inputs.map (·.name)

abbrev Document := List Declaration

namespace Document

def typeNames (document : Document) : List String :=
  (document.filterMap Declaration.newType?).map (·.name)

/-- The kind of the type of a name, as it is declared last. -/
def kindOf? (document : Document) (name : String) : Option TypeKind :=
  (((document.filterMap Declaration.newType?).filter (·.name == name)).getLast?).map (·.kind)

/-- The rule for the directive of a name, as it is declared last. -/
def ruleOf? (document : Document) (name : String) : Option DirectiveRule :=
  let declared := (document.filterMap Declaration.directive?).filter (·.name == name)
  (declared.getLast?.map (·.rule)).or
    (DirectiveRule.builtIn.find? fun rule => rule.name == name)

/-- The problem with the use of a type in a declaration of the schema. -/
def typeUseProblems (document : Document) (name : String) : List Problem :=
  let known := builtInTypes ++ document.typeNames
  if known.contains name then [] else [.unknownType name (Text.suggestions name known)]

/-- The problem with the use of a type in an operation, to which nothing is built in. -/
def conditionProblems (document : Document) (name : String) : List Problem :=
  let known := document.typeNames
  if known.contains name then [] else [.unknownType name (Text.suggestions name known)]

end Document

/-! ### Values -/

mutual

/-- The fields of objects in a value that are given again. -/
def valueProblems : Value → List Problem
  | .list items => itemProblems items
  | .object fields => memberProblems [] fields
  | _ => []

def itemProblems : List Value → List Problem
  | [] => []
  | item :: rest => valueProblems item ++ itemProblems rest

/-- The problems of an object's fields behind those of some names. -/
def memberProblems (taken : List String) : List (String × Value) → List Problem
  | [] => []
  | (name, value) :: rest =>
    (if taken.contains name then [.secondMember name] else []) ++ valueProblems value ++
      memberProblems (name :: taken) rest

end

def defaultProblems (default? : Option Value) : List Problem :=
  (default?.map valueProblems).getD []

def argumentProblems (arguments : List Argument) : List Problem :=
  arguments.flatMap fun argument => valueProblems argument.value

/-! ### Directives in use -/

namespace DirectiveRule

def unknownArguments (rule : DirectiveRule) (given : List String) : List Problem :=
  (given.filter fun name => !rule.arguments.contains name).map fun name =>
    .unknownArgument rule.name name (Text.suggestions name rule.arguments)

def missingArguments (rule : DirectiveRule) (given : List String) : List Problem :=
  (rule.required.filter fun (name, _) => !given.contains name).map fun (name, type) =>
    .missingArgument rule.name name type

end DirectiveRule

def useProblems (document : Document) (place : DirectivePlace) (use : DirectiveUse) :
    List Problem :=
  let given := use.arguments.map (·.name)
  let own := (duplicates given).map .secondGiven ++ argumentProblems use.arguments
  match document.ruleOf? use.name with
  | none => .unknownDirective use.name :: own
  | some rule =>
    (if rule.places.contains place then [] else [.misplacedDirective use.name place]) ++
      rule.unknownArguments given ++ own ++ rule.missingArguments given

def usesProblems (document : Document) (place : DirectivePlace) (uses : List DirectiveUse) :
    List Problem :=
  uses.flatMap (useProblems document place)

/-- The directives that are used again, after those that are in use already. -/
def repeatedUses (document : Document) (taken uses : List DirectiveUse) : List Problem :=
  let once (uses : List DirectiveUse) := (uses.map (·.name)).filter fun name =>
    (document.ruleOf? name).any fun rule => !rule.isRepeatable
  (repeats (once taken) (once uses)).map .secondUse

/-! ### Parts of types -/

/-- What is wrong with an argument or a field of an input type. -/
def argumentDeclarationProblems (document : Document) (place : DirectivePlace)
    (argument : ArgumentDeclaration) : List Problem :=
  repeatedUses document [] argument.directives ++ document.typeUseProblems argument.type.name ++
    defaultProblems argument.default? ++ usesProblems document place argument.directives

def fieldProblems (document : Document) (field : FieldDeclaration) : List Problem :=
  repeatedUses document [] field.directives ++
    field.arguments.flatMap (argumentDeclarationProblems document .argumentDefinition) ++
    document.typeUseProblems field.type.name ++
    usesProblems document .fieldDefinition field.directives

def enumValueProblems (document : Document) (value : ValueDeclaration) : List Problem :=
  repeatedUses document [] value.directives ++ usesProblems document .enumValue value.directives

def extensionProblems (document : Document) (declaration : TypeDeclaration) : List Problem :=
  let name := declaration.name
  if declaration.isExtension then
    match document.kindOf? name with
    | none => [.nothingToExtend name (Text.suggestions name document.typeNames)]
    | some kind => if kind == declaration.kind then [] else [.otherKind declaration.kind name]
  else []

/-- What is wrong with a type's declaration itself, after others. -/
def typeProblems (document before : Document) (declaration : TypeDeclaration) : List Problem :=
  let name := declaration.name
  let same := (before.filterMap Declaration.type?).filter (·.name == name)
  let second := if !declaration.isExtension && same.any (!·.isExtension) then
    [.secondType name] else []
  let values := repeats (same.flatMap fun other => other.values.map (·.name))
    (declaration.values.map (·.name))
  let fields := repeats (same.flatMap (·.fieldNames)) declaration.fieldNames
  let arguments := declaration.fields.flatMap fun field =>
    (duplicates (field.arguments.map (·.name))).map (.secondArgument s!"{name}.{field.name}")
  second ++ values.map (.secondValue name) ++ fields.map (.secondField name) ++ arguments ++
    repeatedUses document (same.flatMap (·.directives)) declaration.directives ++
    extensionProblems document declaration

/-- The place that an input type's field is to directives. A field that an extension adds
counts as an argument. -/
def inputPlace (declaration : TypeDeclaration) : DirectivePlace :=
  if declaration.isExtension then .argumentDefinition else .inputFieldDefinition

/-- What is wrong with the parts of a type's declaration. -/
def typePartProblems (document : Document) (declaration : TypeDeclaration) : List Problem :=
  declaration.interfaces.flatMap document.typeUseProblems ++
    usesProblems document declaration.kind.place declaration.directives ++
    declaration.fields.flatMap (fieldProblems document) ++
    declaration.inputs.flatMap
      (argumentDeclarationProblems document (inputPlace declaration)) ++
    declaration.members.flatMap document.typeUseProblems ++
    declaration.values.flatMap (enumValueProblems document)

/-! ### Operations -/

def variableProblems (document : Document) (declaration : VariableDeclaration) : List Problem :=
  repeatedUses document [] declaration.directives ++
    document.conditionProblems declaration.type.name ++
    defaultProblems declaration.default? ++
    usesProblems document .variableDefinition declaration.directives

mutual

def selectionProblems (document : Document) : Selection → List Problem
  | .field arguments directives selections =>
    repeatedUses document [] directives ++
      (duplicates (arguments.map (·.name))).map .secondGiven ++ argumentProblems arguments ++
      usesProblems document .field directives ++ selectionsProblems document selections
  | .spread directives =>
    repeatedUses document [] directives ++ usesProblems document .fragmentSpread directives
  | .part type? directives selections =>
    repeatedUses document [] directives ++ type?.toList.flatMap document.conditionProblems ++
      usesProblems document .inlineFragment directives ++
      selectionsProblems document selections

def selectionsProblems (document : Document) : List Selection → List Problem
  | [] => []
  | selection :: rest => selectionProblems document selection ++ selectionsProblems document rest

end

/-! ### Documents -/

/-- The directives in use on the declarations of one directive. -/
def usesOn (name : String) : Declaration → List DirectiveUse
  | .directive declaration => if declaration.name == name then declaration.directives else []
  | .directiveExtension other directives => if other == name then directives else []
  | _ => []

def usesOnRoots : Declaration → List DirectiveUse
  | .roots _ directives _ => directives
  | _ => []

def declarationProblems (document before : Document) : Declaration → List Problem
  | .type declaration =>
    typeProblems document before declaration ++ typePartProblems document declaration
  | .roots isExtension directives operations =>
    (if !isExtension && before.any (·.isSchema) then [.secondSchema] else []) ++
      (repeats (before.flatMap Declaration.operations) (operations.map (·.1))).map .secondRoot ++
      repeatedUses document (before.flatMap usesOnRoots) directives ++
      usesProblems document .schema directives ++
      operations.flatMap fun (_, root) => document.typeUseProblems root
  | .directive declaration =>
    let name := declaration.name
    let same := (before.filterMap Declaration.directive?).any (·.name == name)
    (duplicates (declaration.arguments.map (·.name))).map (.secondArgument s!"@{name}") ++
      (if same then [.secondDirective name] else []) ++
      repeatedUses document (before.flatMap (usesOn name)) declaration.directives ++
      declaration.arguments.flatMap
        (argumentDeclarationProblems document .argumentDefinition) ++
      usesProblems document .directiveDefinition declaration.directives
  | .directiveExtension name directives =>
    repeatedUses document (before.flatMap (usesOn name)) directives ++
      usesProblems document .directiveDefinition directives
  | .operation kind inputs directives selections =>
    repeatedUses document [] directives ++ inputs.flatMap (variableProblems document) ++
      usesProblems document kind.place directives ++ selectionsProblems document selections
  | .fragment type directives selections =>
    repeatedUses document [] directives ++ document.conditionProblems type ++
      usesProblems document .fragmentDefinition directives ++
      selectionsProblems document selections

def problemsFrom (document before : Document) : Document → List Problem
  | [] => []
  | declaration :: rest =>
    declarationProblems document before declaration ++
      problemsFrom document (before ++ [declaration]) rest

def problems (document : Document) : List Problem := problemsFrom document [] document

end SchemaGraph.Sdl

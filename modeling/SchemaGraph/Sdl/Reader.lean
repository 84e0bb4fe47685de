import SchemaGraph.Sdl.Declaration
import SchemaGraph.Sdl.Token

/-! Reading a document.

`declarations` reads the tokens of a document as declarations. The reader stands on
one token at a time and looks one further on only past a description. It tells places
by the number of tokens before them, so that blanks and comments make no difference. Going on from
a token needs the next one to be readable, so the first fault in the document is
the one that is found. Lists are read with as much fuel as there are tokens left,
and every round takes at least one of them. Types, values and selections may be
nested `deepest` levels deep in all, and their readers are given the levels that are
left (`room`). -/
namespace SchemaGraph.Sdl

/-! ### What can be wrong with a document -/

inductive SyntaxProblem where
  | misspelling (problem : Misspelling)
  | expected (what : String) (found : Lexeme)
  | unexpected (found : Lexeme)
  | reservedValue (found : Lexeme)
  /-- A description of what cannot have one. -/
  | describedOther
  /-- A description of selections that stand by themselves. -/
  | describedSelections
  | constantVariable (name : String)
  | tooDeep
  deriving Repr, DecidableEq

namespace SyntaxProblem

def message : SyntaxProblem → String
  | misspelling problem => problem.message
  | expected what found => s!"Expected {what}, found {found.describe}."
  | unexpected found => s!"Unexpected {found.describe}."
  | reservedValue found =>
    s!"{found.describe} is reserved and cannot be used for an enum value."
  | describedOther =>
    "Unexpected description, only GraphQL definitions support descriptions."
  | describedSelections =>
    "Unexpected description, descriptions are not supported on shorthand queries."
  | constantVariable name => s!"Unexpected variable '${name}' in constant value."
  | tooDeep => "Document is nested too deeply. Parsing aborted."

end SyntaxProblem

/-- A problem and the number of tokens before it. -/
structure SyntaxFault where
  problem : SyntaxProblem
  index : Nat
  deriving Repr, DecidableEq

/-- A token and the number of tokens before it. -/
structure Item where
  lexeme : Lexeme
  index : Nat

abbrev Reader := StateT (List Item) (Except SyntaxFault)

namespace Reader
variable {α : Type}

/-! ### Single tokens -/

def fail (problem : SyntaxProblem) (token : Item) : Reader α :=
  throw ⟨problem, token.index⟩

/-- The first token, which must be readable. -/
def checked : List Item → Reader Item
  | [] => return ⟨.ending, 0⟩
  | token :: _ =>
    match token.lexeme with
    | .bad problem => fail (.misspelling problem) token
    | _ => return token

/-- The token that the reader stands on. -/
def current : Reader Item := do checked (← get)

def following : Reader Item := do checked ((← get).drop 1)

def advance : Reader Unit := do
  modify (·.drop 1)
  let _ ← current

/-- The number of tokens left, the current one included. -/
def remaining : Reader Nat := return (← get).length

def unexpected : Reader α := do
  let token ← current
  fail (.unexpected token.lexeme) token

def tooDeep : Reader α := do fail .tooDeep (← current)

def index : Reader Nat := return (← current).index

/-- The token is this mark. -/
def standsOn (text : String) : Reader Bool := return (← current).lexeme == .mark text

/-- Takes the token if it is this one. -/
def accepts (lexeme : Lexeme) : Reader Bool := do
  let token ← current
  if token.lexeme == lexeme then
    advance
    return true
  else return false

def acceptMark (text : String) : Reader Bool := accepts (.mark text)

def acceptWord (text : String) : Reader Bool := accepts (.name text)

/-- Takes the token, which must be this one. -/
def expect (lexeme : Lexeme) (text : String) : Reader Unit := do
  let token ← current
  if token.lexeme == lexeme then advance
  else fail (.expected s!"'{text}'" token.lexeme) token

def expectMark (text : String) : Reader Unit := expect (.mark text) text

def expectWord (text : String) : Reader Unit := expect (.name text) text

def name : Reader String := do
  let token ← current
  match token.lexeme with
  | .name text =>
    advance
    return text
  | found => fail (.expected "Name" found) token

def skipDescription : Reader Unit := do
  let token ← current
  if token.lexeme.isString then advance

/-! ### Lists -/

/-- Items up to a closing mark, at least one. -/
def untilMark (close : String) (item : Reader α) : Nat → Reader (List α)
  | 0 => unexpected
  | fuel + 1 => do
    let first ← item
    if ← acceptMark close then return [first]
    let rest ← untilMark close item fuel
    return first :: rest

/-- One or more items between marks. -/
def between (opening close : String) (item : Reader α) : Reader (List α) := do
  expectMark opening
  untilMark close item (← remaining)

/-- One or more items between marks, or nothing at all. -/
def optionalBetween (opening close : String) (item : Reader α) : Reader (List α) := do
  if ← acceptMark opening then untilMark close item (← remaining)
  else return []

/-- Any number of items between marks, of which the first has been taken. -/
def anyUntil (close : String) (item : Reader α) : Reader (List α) := do
  if ← acceptMark close then return []
  untilMark close item (← remaining)

def separatedFrom (mark : String) (item : Reader α) : Nat → Reader (List α)
  | 0 => unexpected
  | fuel + 1 => do
    let first ← item
    if ← acceptMark mark then
      let rest ← separatedFrom mark item fuel
      return first :: rest
    else return [first]

/-- One or more items with a mark between them, and perhaps in front. -/
def separated (mark : String) (item : Reader α) : Reader (List α) := do
  let _ ← acceptMark mark
  separatedFrom mark item (← remaining)

/-! ### Types and values -/

/-- Types, values and selections are nested at most this deep. -/
def deepest : Nat := 200

def typeUseWithin (room : Nat) : Reader TypeUse := do
  let type ← if ← acceptMark "[" then
      match room with
      | 0 => tooDeep
      | room + 1 =>
        let item ← typeUseWithin room
        expectMark "]"
        pure (.list item)
    else .named <$> name
  if ← acceptMark "!" then return .nonNull type
  return type

def typeUse : Reader TypeUse := typeUseWithin deepest

/-- A variable, where one may stand. -/
def variableUse (isConstant : Bool) : Reader Value := do
  let token ← current
  advance
  if isConstant then
    match (← current).lexeme with
    | .name text => fail (.constantVariable text) token
    | _ => fail (.unexpected token.lexeme) token
  .variableUse <$> name

/-- A value that has no values in it. -/
def plainValue (isConstant : Bool) : Reader Value := do
  match (← current).lexeme with
  | .int spelling => advance *> pure (.number spelling)
  | .float spelling => advance *> pure (.number spelling)
  | .string text => advance *> pure (.string text)
  | .block text => advance *> pure (.block text)
  | .name "null" => advance *> pure .null
  | .name word => advance *> pure (.word word)
  | .mark "$" => variableUse isConstant
  | _ => unexpected

def valueWithin (isConstant : Bool) (room : Nat) : Reader Value := do
  match (← current).lexeme with
  | .mark "[" =>
    match room with
    | 0 => tooDeep
    | room + 1 =>
      advance
      .list <$> anyUntil "]" (valueWithin isConstant room)
  | .mark "\x7b" =>
    match room with
    | 0 => tooDeep
    | room + 1 =>
      advance
      .object <$> anyUntil "\x7d" do
        let field ← name
        expectMark ":"
        return (field, ← valueWithin isConstant room)
  | _ => plainValue isConstant

/-! ### Directives in use -/

def argument (isConstant : Bool) (room : Nat) : Reader Argument := do
  let name ← name
  expectMark ":"
  let index ← index
  let value ← valueWithin isConstant room
  return { name, value, index }

def argumentsWithin (isConstant : Bool) (room : Nat) : Reader (List Argument) :=
  optionalBetween "(" ")" (argument isConstant room)

def directivesFrom (isConstant : Bool) (room : Nat) : Nat → Reader (List DirectiveUse)
  | 0 => return []
  | fuel + 1 => do
    let index ← index
    if ← acceptMark "@" then
      let name ← name
      let arguments ← argumentsWithin isConstant room
      let more ← directivesFrom isConstant room fuel
      return { name, arguments, index } :: more
    else return []

def directivesWithin (isConstant : Bool) (room : Nat) : Reader (List DirectiveUse) := do
  directivesFrom isConstant room (← remaining)

/-- The directives put to use on a declaration. -/
def directives : Reader (List DirectiveUse) := directivesWithin true deepest

/-! ### Types -/

def argumentDeclaration : Reader ArgumentDeclaration := do
  skipDescription
  let name ← name
  expectMark ":"
  let type ← typeUse
  let default? ← if ← acceptMark "=" then some <$> valueWithin true deepest else pure none
  let directives ← directives
  return { name, type, default?, directives }

def argumentDeclarations : Reader (List ArgumentDeclaration) :=
  optionalBetween "(" ")" argumentDeclaration

def fieldDeclaration : Reader FieldDeclaration := do
  skipDescription
  let name ← name
  let arguments ← argumentDeclarations
  expectMark ":"
  let type ← typeUse
  let directives ← directives
  return { name, arguments, type, directives }

/-- The names that no enum value may have. -/
def reservedValues : List (Option String) := Name.literals.map some

def valueDeclaration : Reader ValueDeclaration := do
  skipDescription
  let token ← current
  if reservedValues.contains token.lexeme.text? then fail (.reservedValue token.lexeme) token
  let name ← name
  let directives ← directives
  return { name, directives }

def interfaces : Reader (List String) := do
  if ← acceptWord "implements" then separated "&" name
  else return []

def members : Reader (List String) := do
  if ← acceptMark "=" then separated "|" name
  else return []

/-- A type after its keyword. An extension must add something. -/
def typeDeclaration (kind : TypeKind) (isExtension : Bool) : Reader TypeDeclaration := do
  expectWord kind.keyword
  let name ← name
  let interfaces ← match kind with
    | .object => interfaces
    | .interface => interfaces
    | _ => pure []
  let directives ← directives
  let fields ← match kind with
    | .object => optionalBetween "\x7b" "\x7d" fieldDeclaration
    | .interface => optionalBetween "\x7b" "\x7d" fieldDeclaration
    | _ => pure []
  let inputs ← match kind with
    | .input => optionalBetween "\x7b" "\x7d" argumentDeclaration
    | _ => pure []
  let members ← match kind with
    | .union => members
    | _ => pure []
  let values ← match kind with
    | .enum => optionalBetween "\x7b" "\x7d" valueDeclaration
    | _ => pure []
  if isExtension && directives.isEmpty && interfaces.isEmpty && fields.isEmpty
      && inputs.isEmpty && members.isEmpty && values.isEmpty then unexpected
  return { kind, isExtension, name, interfaces, directives, fields, inputs, members, values }

/-! ### Roots and directives -/

def operationKind : Reader Operation := do
  let token ← current
  match Operation.ofKeyword? (← name) with
  | some kind => return kind
  | none => fail (.unexpected token.lexeme) token

def rootDeclaration : Reader (Operation × String) := do
  let kind ← operationKind
  expectMark ":"
  let root ← name
  return (kind, root)

def rootsDeclaration (isExtension : Bool) : Reader Declaration := do
  expectWord "schema"
  let directives ← directives
  if isExtension then
    let operations ← optionalBetween "\x7b" "\x7d" rootDeclaration
    if directives.isEmpty && operations.isEmpty then unexpected
    return .roots true directives operations
  else
    let operations ← between "\x7b" "\x7d" rootDeclaration
    return .roots false directives operations

def directivePlace : Reader DirectivePlace := do
  let token ← current
  match DirectivePlace.ofKeyword? (← name) with
  | some place => return place
  | none => fail (.unexpected token.lexeme) token

def directiveName : Reader String := do
  expectWord "directive"
  expectMark "@"
  name

def directiveDeclaration : Reader DirectiveDeclaration := do
  let name ← directiveName
  let arguments ← argumentDeclarations
  let directives ← directives
  let isRepeatable ← acceptWord "repeatable"
  expectWord "on"
  let places ← separated "|" directivePlace
  return { name, arguments, directives, isRepeatable, places }

def directiveExtension : Reader Declaration := do
  let name ← directiveName
  let directives ← directives
  if directives.isEmpty then unexpected
  return .directiveExtension name directives

/-- An extension of something declared elsewhere. -/
def extensionDeclaration : Reader Declaration := do
  let keyword ← following
  match keyword.lexeme with
  | .name "schema" =>
    advance
    rootsDeclaration true
  | .name "directive" =>
    advance
    directiveExtension
  | .name word =>
    match TypeKind.ofKeyword? word with
    | some kind =>
      advance
      .type <$> typeDeclaration kind true
    | none => fail (.unexpected keyword.lexeme) keyword
  | found => fail (.unexpected found) keyword

/-! ### Operations -/

/-- The name of a fragment: any but the word before its type. -/
def fragmentName : Reader String := do
  if (← current).lexeme.text? == some "on" then unexpected
  name

def selectionsWithin : Nat → Reader (List Selection)
  | 0 => tooDeep
  | room + 1 => between "\x7b" "\x7d" do
    if ← acceptMark "..." then
      let hasType ← acceptWord "on"
      let found := (← current).lexeme
      if !hasType && found.isName then
        let _ ← fragmentName
        return .spread (← directivesWithin false room)
      let type? ← if hasType then some <$> name else pure none
      let directives ← directivesWithin false room
      return .part type? directives (← selectionsWithin room)
    else
      let _ ← name
      if ← acceptMark ":" then
        let _ ← name
      let arguments ← argumentsWithin false room
      let directives ← directivesWithin false room
      let selections ← if ← standsOn "\x7b" then selectionsWithin room else pure []
      return .field arguments directives selections

def selections : Reader (List Selection) := selectionsWithin deepest

def variableDeclaration : Reader VariableDeclaration := do
  skipDescription
  expectMark "$"
  let _ ← name
  expectMark ":"
  let type ← typeUse
  let default? ← if ← acceptMark "=" then some <$> valueWithin true deepest else pure none
  let directives ← directives
  return { type, default?, directives }

/-- An operation after its description. -/
def operationDeclaration : Reader Declaration := do
  let kind ← operationKind
  if (← current).lexeme.isName then
    let _ ← name
  let inputs ← optionalBetween "(" ")" variableDeclaration
  let directives ← directivesWithin false deepest
  return .operation kind inputs directives (← selections)

/-- A fragment after its description. -/
def fragmentDeclaration : Reader Declaration := do
  expectWord "fragment"
  let _ ← fragmentName
  expectWord "on"
  let type ← name
  let directives ← directivesWithin false deepest
  return .fragment type directives (← selections)

/-! ### Documents -/

/-- What a word declares, after a description if there is one. -/
def keywordDeclaration? (word : String) : Option (Reader Declaration) :=
  match word with
  | "schema" => some (rootsDeclaration false)
  | "directive" => some (.directive <$> directiveDeclaration)
  | "fragment" => some fragmentDeclaration
  | _ =>
    match TypeKind.ofKeyword? word, Operation.ofKeyword? word with
    | some kind, _ => some (.type <$> typeDeclaration kind false)
    | _, some _ => some operationDeclaration
    | _, _ => none

/-- A declaration, told from others by its first word. -/
def declaration : Reader Declaration := do
  if ← standsOn "\x7b" then return .operation .query [] [] (← selections)
  let start ← current
  let described := start.lexeme.isString
  let keyword ← if described then following else current
  match keyword.lexeme with
  | .name word =>
    match keywordDeclaration? word with
    | some declaration =>
      skipDescription
      declaration
    | none =>
      if described then fail .describedOther start
      else if word == "extend" then extensionDeclaration
      else fail (.unexpected keyword.lexeme) keyword
  | .mark "\x7b" => fail .describedSelections start
  | found => fail (.unexpected found) keyword

/-- Declarations up to the end of the document, at least one. -/
def document : Nat → Reader (List Declaration)
  | 0 => unexpected
  | fuel + 1 => do
    let first ← declaration
    if (← current).lexeme == .ending then return [first]
    let rest ← document fuel
    return first :: rest

end Reader

def declarations (lexemes : List Lexeme) : Except SyntaxFault (List Declaration) :=
  let items := lexemes.zipIdx.map fun (lexeme, index) => { lexeme, index }
  (Reader.document items.length items).map (·.1)

end SchemaGraph.Sdl

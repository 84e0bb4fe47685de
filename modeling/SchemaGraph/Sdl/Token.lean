import SchemaGraph.Json.Reader
import SchemaGraph.Name.Legal
import SchemaGraph.Text.Lines
import SchemaGraph.Text.Quoted

/-! Tokens of a schema document.

A document is a sequence of marks, names, numbers and strings, with blanks, commas
and comments between them that mean nothing. A comment runs from a number sign to
the end of its line. `tokens` cuts a text up; the list ends with `ending`, or with
the first place where no token can be read (`bad`), so that a reader meets a fault
of spelling only when it gets there. -/
namespace SchemaGraph.Sdl

/-! ### What can be wrong with the spelling -/

/-- A character, or the end of the text, as messages show it. -/
def shown : Option Char → String
  | none => "<EOF>"
  | some c =>
    if ' ' ≤ c && c ≤ '~' then s!"'{c}'"
    else s!"U+{String.ofList ((Text.hex 4 c.toNat).map Char.toUpper)}"

/-- Why no token can be read at some place. -/
inductive Misspelling where
  | character (c : Char)
  | singleQuote
  | digitAfterZero (c : Char)
  | noDigit (found : Option Char)
  | unterminated
  | escape (text : String)
  | unicodeEscape (text : String)
  /-- The text ends within an escape. -/
  | cutEscape
  | twoDots
  /-- A number that starts with its point; its digits. -/
  | noWhole (digits : String)
  deriving Repr, DecidableEq

namespace Misspelling

def message : Misspelling → String
  | character c => s!"Unexpected character: {shown (some c)}."
  | singleQuote =>
    "Unexpected single quote character ('), did you mean to use a double quote (\")?"
  | digitAfterZero c => s!"Invalid number, unexpected digit after 0: {shown (some c)}."
  | noDigit found => s!"Invalid number, expected digit but got: {shown found}."
  | unterminated => "Unterminated string."
  | escape text => s!"Invalid character escape sequence: '{text}'."
  | unicodeEscape text => s!"Invalid Unicode escape sequence: '{text}'."
  | cutEscape => "Invalid escape sequence at the end of the text."
  | twoDots => "Unexpected '..', did you mean '...'?"
  | noWhole digits =>
    s!"Invalid number, expected digit before '.', did you mean '0.{digits}'?"

end Misspelling

/-! ### Tokens -/

inductive Lexeme where
  | mark (text : String)
  | name (text : String)
  | int (text : String)
  | float (text : String)
  | string (text : String)
  | block (text : String)
  | ending
  | bad (problem : Misspelling)
  deriving Repr, DecidableEq

namespace Lexeme

def titled (kind text : String) : String := if text.isEmpty then kind else s!"{kind} '{text}'"

def describe : Lexeme → String
  | mark text => s!"'{text}'"
  | name text => titled "Name" text
  | int text => titled "Int" text
  | float text => titled "Float" text
  | string text => titled "String" text
  | block text => titled "BlockString" text
  | ending => "<EOF>"
  | bad problem => problem.message

def isString : Lexeme → Bool
  | string _ => true
  | block _ => true
  | _ => false

def isName : Lexeme → Bool
  | name _ => true
  | _ => false

/-- The text of a token that is more than a mark. -/
def text? : Lexeme → Option String
  | name text => some text
  | int text => some text
  | float text => some text
  | string text => some text
  | block text => some text
  | _ => none

end Lexeme

/-- A token and the number of characters before it. -/
structure Token where
  lexeme : Lexeme
  offset : Nat
  deriving Repr, DecidableEq

/-- What the characters at some place are: the first one, and `extra` ones after it.
Where they are no token, `extra` tells how far the fault is away. -/
inductive Piece where
  | blank (extra : Nat)
  | token (lexeme : Lexeme) (extra : Nat)
  | fault (problem : Misspelling) (extra : Nat)

/-! ### Strings -/

/-- The value of hexadecimal digits up to a closing brace, and the characters read,
`size` ones before them included. -/
def bracedCode? (code size : Nat) : List Char → Option (Nat × Nat)
  | [] => none
  | c :: rest =>
    if c == '\x7d' then some (code, size + 1)
    else match Json.hexCode? ['0', '0', '0', c] with
      | some digit => bracedCode? (code * 16 + digit) (size + 1) rest
      | none => none

/-- Stands for a character of its own. -/
def isScalar (code : Nat) : Bool := code < 0xD800 || (0xE000 ≤ code && code < 0x110000)

/-- Escapes between braces are at most this long, backslash included. -/
def longestEscape : Nat := 12

/-- The number of characters shown of a faulty escape between braces. -/
def faultyEscapeLength (rest : List Char) : Nat :=
  let digits := ((rest.drop 2).take (longestEscape - 3)).takeWhile fun c =>
    (Json.hexCode? ['0', '0', '0', c]).isSome
  min (digits.length + 4) (min longestEscape (rest.length + 1))

/-- The text of the backslash and what follows it, `size` characters in all. -/
def escapeText (size : Nat) (rest : List Char) : String :=
  String.ofList (('\\' :: rest).take size)

/-- The unit of sixteen bits that four digits give. Digits that the end of the text cuts off
are a fault of their own. -/
def unitAt (digits : List Char) : Except Misspelling (Option Nat) :=
  if digits.length < 4 then .error .cutEscape else .ok (Json.hexCode? (digits.take 4))

/-- The character that an escape stands for, and the number of characters after the
backslash that spell it. Two escapes for the halves of a pair count as one. -/
def escapeAt (rest : List Char) : Except Misspelling (Char × Nat) :=
  match rest with
  | 'u' :: '\x7b' :: digits =>
    match bracedCode? 0 3 (digits.take (longestEscape - 3)) with
    | some (code, size) =>
      if 5 ≤ size && isScalar code then .ok (Char.ofNat code, size - 1)
      else .error (.unicodeEscape (escapeText size rest))
    | none => .error (.unicodeEscape (escapeText (faultyEscapeLength rest) rest))
  | 'u' :: digits => do
    let fault := Misspelling.unicodeEscape (escapeText 6 rest)
    match ← unitAt digits with
    | none => throw fault
    | some code =>
      if isScalar code then return (Char.ofNat code, 5)
      match Text.isHighHalf code, digits.drop 4 with
      | true, '\\' :: 'u' :: more =>
        let low := (← unitAt more).getD 0
        if Text.isLowHalf low then
          return (Char.ofNat (Text.pairCode code low), 11)
        else throw fault
      | _, _ => throw fault
  | c :: _ =>
    match Json.escape? c with
    | some value => .ok (value, 1)
    | none => .error (.escape (escapeText 2 rest))
  | [] => .error .cutEscape

/-- The rest of a string, given its characters so far from the last one back and the number
of characters before the rest. -/
def stringFrom (value : List Char) (extra : Nat) : List Char → Piece
  | [] => .fault .unterminated extra
  | c :: rest =>
    if c == '"' then .token (.string (String.ofList value.reverse)) extra
    else if c == '\n' || c == '\r' then .fault .unterminated extra
    else if c == '\\' then
      match escapeAt rest with
      | .ok (value', size) => stringFrom (value' :: value) (extra + 1 + size) (rest.drop size)
      | .error problem => .fault problem extra
    else stringFrom (c :: value) (extra + 1) rest
termination_by text => text.length
decreasing_by all_goals simp only [List.length_cons, List.length_drop]; omega

def indentOf (line : List Char) : Nat := (line.takeWhile fun c => c == ' ' || c == '\t').length

def isBlankLine (line : List Char) : Bool := indentOf line == line.length

/-- The lines of a block without the indent that those after the first have in common, and
without blank lines at either end. -/
def dedent (lines : List (List Char)) : List (List Char) :=
  let indents := ((lines.drop 1).filter fun line => !isBlankLine line).map indentOf
  let common := indents.min?
  let cut : List (List Char) := match lines with
    | [] => []
    | first :: rest => first :: rest.map fun (line : List Char) =>
        match common with
        | some n => line.drop n
        | none => []
  ((cut.dropWhile isBlankLine).reverse.dropWhile isBlankLine).reverse

/-- The rest of a block, given its lines so far and the characters of the last line, both
from the last one back, and the number of characters before the rest. -/
def blockFrom (lines : List (List Char)) (line : List Char) (extra : Nat) : List Char → Piece
  | [] => .fault .unterminated extra
  | '"' :: '"' :: '"' :: _ =>
    let text := dedent (line.reverse :: lines).reverse
    .token (.block (String.ofList (['\n'].intercalate text))) (extra + 2)
  | '\\' :: '"' :: '"' :: '"' :: rest =>
    blockFrom lines ('"' :: '"' :: '"' :: line) (extra + 4) rest
  | '\r' :: '\n' :: rest => blockFrom (line.reverse :: lines) [] (extra + 2) rest
  | c :: rest =>
    if c == '\n' || c == '\r' then blockFrom (line.reverse :: lines) [] (extra + 1) rest
    else blockFrom lines (c :: line) (extra + 1) rest

/-! ### Numbers -/

def digitsOf (text : List Char) : List Char := text.takeWhile Char.isDigit

/-- The number of digits at a place that must have one; an error tells what is there. -/
def someDigits (text : List Char) : Except Misspelling Nat :=
  match digitsOf text with
  | [] => .error (.noDigit text.head?)
  | digits => .ok digits.length

/-- The length of the part of a number behind its point, if it has one. -/
def fractionLength (text : List Char) : Except (Misspelling × Nat) Nat :=
  match text with
  | '.' :: rest => ((someDigits rest).map (1 + ·)).mapError (·, 1)
  | _ => .ok 0

/-- The length of the exponent of a number, if it has one. -/
def exponentLength (text : List Char) : Except (Misspelling × Nat) Nat :=
  match text with
  | c :: rest =>
    if c == 'e' || c == 'E' then
      let sign := match rest.head? with
        | some '+' => 1
        | some '-' => 1
        | _ => 0
      ((someDigits (rest.drop sign)).map (1 + sign + ·)).mapError (·, 1 + sign)
    else .ok 0
  | [] => .ok 0

def wholeLength (text : List Char) : Except (Misspelling × Nat) Nat :=
  let sign := if text.head? == some '-' then 1 else 0
  match text.drop sign with
  | '0' :: rest =>
    match rest.head? with
    | some c => if c.isDigit then .error (.digitAfterZero c, sign + 1) else .ok (sign + 1)
    | none => .ok (sign + 1)
  | rest => ((someDigits rest).map (sign + ·)).mapError (·, sign)

/-- A fault `n` characters further on. -/
def furtherOn {α : Type} (n : Nat) (result : Except (Misspelling × Nat) α) :
    Except (Misspelling × Nat) α :=
  result.mapError fun (problem, place) => (problem, place + n)

/-- A number's token and its length. No name and no point may follow directly. -/
def numberAt (text : List Char) : Except (Misspelling × Nat) (Lexeme × Nat) := do
  let whole ← wholeLength text
  let fraction ← furtherOn whole (fractionLength (text.drop whole))
  let exponent ← furtherOn (whole + fraction) (exponentLength (text.drop (whole + fraction)))
  let size := whole + fraction + exponent
  let next? := (text.drop size).head?
  if next?.any fun c => c == '.' || Name.isStart c then throw (.noDigit next?, size)
  let written := String.ofList (text.take size)
  return (if fraction + exponent == 0 then .int written else .float written, size)

/-! ### Pieces -/

def marks : List Char :=
  ['!', '$', '&', '(', ')', ':', '=', '@', '[', ']', '\x7b', '|', '\x7d']

/-- Means nothing between tokens. -/
def isIgnored (c : Char) : Bool :=
  c == ' ' || c == '\t' || c == ',' || c == '\ufeff' || c == '\n' || c == '\r'

/-- Ends a line of a document. -/
def endsLine (c : Char) : Bool := c == '\n' || c == '\r'

/-- The piece that starts with a dot: three of them are a mark. -/
def dotAt (rest : List Char) : Piece :=
  match rest with
  | '.' :: '.' :: _ => .token (.mark "...") 2
  | '.' :: _ => .fault .twoDots 0
  | _ =>
    match digitsOf rest with
    | [] => .fault (.character '.') 0
    | digits => .fault (.noWhole (String.ofList digits)) 0

/-- The piece that starts with `c`. -/
def pieceAt (c : Char) (rest : List Char) : Piece :=
  if isIgnored c then .blank 0
  else if c == '#' then .blank (rest.takeWhile fun c => !endsLine c).length
  else if marks.contains c then .token (.mark c.toString) 0
  else if c.isDigit || c == '-' then
    match numberAt (c :: rest) with
    | .ok (lexeme, size) => .token lexeme (size - 1)
    | .error (problem, place) => .fault problem place
  else if Name.isStart c then
    let more := rest.takeWhile Name.isPart
    .token (.name (String.ofList (c :: more))) more.length
  else if c == '.' then dotAt rest
  else if c == '"' then
    if ['"', '"'].isPrefixOf rest then blockFrom [] [] 3 (rest.drop 2)
    else stringFrom [] 1 rest
  else if c == '\'' then .fault .singleQuote 0
  else .fault (.character c) 0

/-- The tokens of a text with `offset` characters before it. -/
def tokensFrom (offset : Nat) : List Char → List Token
  | [] => [⟨.ending, offset⟩]
  | c :: rest =>
    match pieceAt c rest with
    | .blank extra => tokensFrom (offset + extra + 1) (rest.drop extra)
    | .token lexeme extra =>
      ⟨lexeme, offset⟩ :: tokensFrom (offset + extra + 1) (rest.drop extra)
    | .fault problem extra => [⟨.bad problem, offset + extra⟩]
termination_by text => text.length
decreasing_by all_goals simp only [List.length_cons, List.length_drop]; omega

def tokens (text : String) : List Token := tokensFrom 0 text.toList

/-- The tokens of a document wherever they stand. -/
def lexemes (text : String) : List Lexeme := (tokens text).map (·.lexeme)

end SchemaGraph.Sdl

import SchemaGraph.Json.Basic
import SchemaGraph.Text.Half
import SchemaGraph.Text.Integer

/-! Reading JSON text.

`Json.read` takes a whole text to a value or to the first thing wrong with it and
the place where it stands. Beside the standard grammar it takes `NaN`, `Infinity`
and `-Infinity`. When an object names a member twice the last value wins, at the
place of the first. Whole numbers may have `Text.mostDigits` digits and no more. -/
namespace SchemaGraph

/-! ### What can be wrong with a text -/

inductive TextProblem where
  | byteOrderMark
  | value
  | memberName
  | colon
  | comma
  | extra
  | unterminated
  | control
  | escape
  | unicodeEscape
  /-- A whole number has too many digits. -/
  | longNumber
  deriving Repr, DecidableEq

namespace TextProblem

def message : TextProblem → String
  | byteOrderMark => "Unexpected UTF-8 BOM (decode using utf-8-sig)"
  | value => "Expecting value"
  | memberName => "Expecting property name enclosed in double quotes"
  | colon => "Expecting ':' delimiter"
  | comma => "Expecting ',' delimiter"
  | extra => "Extra data"
  | unterminated => "Unterminated string starting at"
  | control => "Invalid control character at"
  | escape => "Invalid \\escape"
  | unicodeEscape => "Invalid \\uXXXX escape"
  | longNumber => "Too many digits"

end TextProblem

/-- A problem and where it stands: characters before it, and line and column from one. -/
structure TextFault where
  problem : TextProblem
  offset : Nat
  line : Nat
  column : Nat
  deriving Repr, DecidableEq

namespace TextFault

/-- The place `offset` characters into a text. -/
def locate (text : List Char) (problem : TextProblem) (offset : Nat) : TextFault :=
  let before := text.take offset
  { problem, offset
    line := before.count '\n' + 1
    column := (before.reverse.takeWhile (· != '\n')).length + 1 }

def message (fault : TextFault) : String :=
  s!"{fault.problem.message}: line {fault.line} column {fault.column} (char {fault.offset})"

end TextFault

namespace Json

/-- The unread part of a text and the number of characters read. -/
structure Cursor where
  rest : List Char
  offset : Nat
  deriving Repr

/-- A step of the reader: a result, or a problem with its offset. -/
abbrev Reading := Except (TextProblem × Nat)

namespace Cursor

def skip (n : Nat) (cursor : Cursor) : Cursor := ⟨cursor.rest.drop n, cursor.offset + n⟩

def isSpace (c : Char) : Bool := c == ' ' || c == '\t' || c == '\n' || c == '\r'

def skipSpace (cursor : Cursor) : Cursor :=
  cursor.skip (cursor.rest.takeWhile isSpace).length

end Cursor

/-! ### Texts -/

def hexCode? : List Char → Option Nat
  | [a, b, c, d] => [a, b, c, d].foldl (fun code? digit => do
      let code ← code?
      let n := digit.toNat
      if '0' ≤ digit && digit ≤ '9' then some (code * 16 + (n - '0'.toNat))
      else if 'a' ≤ digit && digit ≤ 'f' then some (code * 16 + (n - 'a'.toNat + 10))
      else if 'A' ≤ digit && digit ≤ 'F' then some (code * 16 + (n - 'A'.toNat + 10))
      else none) (some 0)
  | _ => none

/-- The character behind a one-letter escape. -/
def escape? : Char → Option Char
  | '"' => some '"'
  | '\\' => some '\\'
  | '/' => some '/'
  | 'b' => some '\u0008'
  | 'f' => some '\u000c'
  | 'n' => some '\n'
  | 'r' => some '\r'
  | 't' => some '\t'
  | _ => none

/-- The characters up to the closing quote. Each character read uses one unit of
`fuel`; `start` is the offset of the opening quote. -/
def readText (fuel : Nat) (start : Nat) (done : List Char) (cursor : Cursor) :
    Reading (String × Cursor) :=
  match fuel with
  | 0 => .error (.unterminated, start)
  | fuel + 1 =>
    match cursor.rest with
    | [] => .error (.unterminated, start)
    | '"' :: _ => .ok (String.ofList done.reverse, cursor.skip 1)
    | '\\' :: [] => .error (.unterminated, start)
    | '\\' :: 'u' :: rest =>
      if rest.length ≤ 4 then .error (.unicodeEscape, cursor.offset + 1)
      else match hexCode? (rest.take 4) with
        | none => .error (.unicodeEscape, cursor.offset + 1)
        | some code =>
          match Text.isHighHalf code && 6 < (rest.drop 4).length, rest.drop 4 with
          | true, '\\' :: 'u' :: second =>
            match hexCode? (second.take 4) with
            | none => .error (.unicodeEscape, cursor.offset + 7)
            | some low =>
              if Text.isLowHalf low then
                readText fuel start (Char.ofNat (Text.pairCode code low) :: done) (cursor.skip 12)
              else readText fuel start (Text.ofUnit code :: done) (cursor.skip 6)
          | _, _ => readText fuel start (Text.ofUnit code :: done) (cursor.skip 6)
    | '\\' :: c :: _ =>
      match escape? c with
      | some meant => readText fuel start (meant :: done) (cursor.skip 2)
      | none => .error (.escape, cursor.offset)
    | c :: _ =>
      if c.toNat < 0x20 then .error (.control, cursor.offset)
      else readText fuel start (c :: done) (cursor.skip 1)

/-! ### Numbers -/

def isDigit (c : Char) : Bool := '0' ≤ c && c ≤ '9'

def digitsValue (digits : List Char) : Nat :=
  digits.foldl (fun value c => value * 10 + (c.toNat - '0'.toNat)) 0

/-- The fraction digits after a point, if any follow it. -/
def fraction : List Char → List Char
  | '.' :: rest => rest.takeWhile isDigit
  | _ => []

/-- A signed exponent of ten with the number of characters it takes. -/
def exponent? : List Char → Option (Int × Nat)
  | mark :: rest =>
    if mark != 'e' && mark != 'E' then none
    else
      let (negative, signs, rest) := match rest with
        | '-' :: rest => (true, 1, rest)
        | '+' :: rest => (false, 1, rest)
        | _ => (false, 0, rest)
      let digits := rest.takeWhile isDigit
      let value : Int := digitsValue digits
      if digits.isEmpty then none
      else some (if negative then -value else value, 1 + signs + digits.length)
  | [] => none

/-- The whole digits at the start: a lone zero, or a run that starts otherwise. -/
def wholeDigits : List Char → List Char
  | '0' :: _ => ['0']
  | rest => rest.takeWhile isDigit

/-- A number; one with a fraction or an exponent is floating point. -/
def readNumber (cursor : Cursor) : Reading (Json × Cursor) :=
  let (negative, rest) := match cursor.rest with
    | '-' :: rest => (true, rest)
    | rest => (false, rest)
  let signs := if negative then 1 else 0
  let whole := wholeDigits rest
  if whole.isEmpty then .error (.value, cursor.offset)
  else
    let rest := rest.drop whole.length
    let decimals := fraction rest
    let pointed := if decimals.isEmpty then 0 else 1 + decimals.length
    let rest := rest.drop pointed
    let used := signs + whole.length + pointed
    match exponent? rest with
    | some (power, length) =>
      .ok (.float (.ofDecimal negative (digitsValue (whole ++ decimals)) (power - decimals.length)),
        cursor.skip (used + length))
    | none =>
      if decimals.isEmpty && Text.mostDigits < whole.length then .error (.longNumber, cursor.offset)
      else if decimals.isEmpty then
        let value : Int := digitsValue whole
        .ok (.int (if negative then -value else value), cursor.skip used)
      else
        .ok (.float (.ofDecimal negative (digitsValue (whole ++ decimals)) (-decimals.length)),
          cursor.skip used)

/-! ### Values -/

/-- `members` with `name` standing for `value`, at its old place if it has one. -/
def setMember (name : String) (value : Json) : List (String × Json) → List (String × Json)
  | [] => [(name, value)]
  | (key, old) :: rest =>
    if key == name then (name, value) :: rest else (key, old) :: setMember name value rest

def words : List (List Char × Json) := [
  ("null".toList, .null),
  ("true".toList, .bool true),
  ("false".toList, .bool false),
  ("NaN".toList, .float .nan),
  ("Infinity".toList, .float (.infinite false)),
  ("-Infinity".toList, .float (.infinite true))]

def readAtom (cursor : Cursor) : Reading (Json × Cursor) :=
  match words.find? fun (word, _) => word.isPrefixOf cursor.rest with
  | some (word, value) => .ok (value, cursor.skip word.length)
  | none => readNumber cursor

/-- What the reader stands before: a value, the next item of an array whose earlier
ones are given in reverse, or the next member of an object whose earlier ones are
given. -/
inductive Goal where
  | value
  | items (done : List Json)
  | members (done : List (String × Json))

/-- Reads up to the end of the goal. A container's closing mark may come first only
while it is empty. Every step reads at least one character and uses one unit of
`fuel`. -/
def readGoal (fuel : Nat) (goal : Goal) (cursor : Cursor) : Reading (Json × Cursor) :=
  match fuel with
  | 0 => .error (.value, cursor.offset)
  | fuel + 1 =>
    match goal with
    | .value => do
      match cursor.rest with
      | '"' :: _ =>
        let (text, cursor) ← readText (cursor.rest.length + 1) cursor.offset [] (cursor.skip 1)
        return (.str text, cursor)
      | '[' :: _ =>
        let inside := (cursor.skip 1).skipSpace
        match inside.rest with
        | ']' :: _ => return (.arr [], inside.skip 1)
        | _ => readGoal fuel (.items []) inside
      | '\x7b' :: _ =>
        let inside := (cursor.skip 1).skipSpace
        match inside.rest with
        | '\x7d' :: _ => return (.obj [], inside.skip 1)
        | _ => readGoal fuel (.members []) inside
      | _ => readAtom cursor
    | .items done => do
      let (value, after) ← readGoal fuel .value cursor
      let after := after.skipSpace
      match after.rest with
      | ']' :: _ => return (.arr (value :: done).reverse, after.skip 1)
      | ',' :: _ => readGoal fuel (.items (value :: done)) (after.skip 1).skipSpace
      | _ => throw (.comma, after.offset)
    | .members done => do
      match cursor.rest with
      | '"' :: _ =>
        let (name, after) ← readText (cursor.rest.length + 1) cursor.offset [] (cursor.skip 1)
        let after := after.skipSpace
        match after.rest with
        | ':' :: _ =>
          let (value, after) ← readGoal fuel .value (after.skip 1).skipSpace
          let after := after.skipSpace
          let members := setMember name value done
          match after.rest with
          | '\x7d' :: _ => return (.obj members, after.skip 1)
          | ',' :: _ => readGoal fuel (.members members) (after.skip 1).skipSpace
          | _ => throw (.comma, after.offset)
        | _ => throw (.colon, after.offset)
      | _ => throw (.memberName, cursor.offset)

def read (text : String) : Except TextFault Json :=
  let chars := text.toList
  let whole : Reading Json := do
    if chars.head? == some '\ufeff' then throw (.byteOrderMark, 0)
    let (value, after) ← readGoal (2 * chars.length + 2) .value (Cursor.skipSpace ⟨chars, 0⟩)
    let after := after.skipSpace
    if after.rest.isEmpty then return value else throw (.extra, after.offset)
  whole.mapError fun (problem, offset) => .locate chars problem offset

end Json
end SchemaGraph

import SchemaGraph.MetaSchema.Pattern.Scan
import SchemaGraph.Text.CharacterName

/-! Escapes and sets of characters.

A backslash makes a letter stand for a control character, a class of characters or a
place in the text, gives a character by its code or its name, or refers to a group. In a
set there are no places and no groups, and a range must not run backwards. -/
namespace SchemaGraph.Pattern

/-! ### Characters by code and name -/

/-- A character given by exactly `count` hexadecimal digits. -/
def hexEscape (count : Nat) : Reader Nat := do
  let digits ← take count fun c => (hexValue? c).isSome
  if digits.length == count then return number 16 digits else fail

def nameEscape : Reader Nat := do
  expect '\x7b'
  match Text.CharacterName.code? (← upTo '\x7d') with
  | some code => return code
  | none => fail

/-- A character given by its code or name behind the letter `c`. -/
def codeEscape? (c : Char) : Option (Reader Nat) :=
  if c == 'x' then some (hexEscape 2)
  else if c == 'u' then some (hexEscape 4)
  else if c == 'U' then some do
    let code ← hexEscape 8
    if code ≤ 0x10FFFF then return code else fail
  else if c == 'N' then some nameEscape
  else none

/-- Letters for a control character. -/
def controls : List (Char × Nat) :=
  [('a', 7), ('f', 12), ('n', 10), ('r', 13), ('t', 9), ('v', 11)]

/-- Letters for a class of characters. -/
def classes : List Char := ['d', 'D', 's', 'S', 'w', 'W']

/-- Letters for a place in the text. -/
def anchors : List Char := ['A', 'b', 'B', 'Z']

/-! ### Outside a set -/

/-- The last item of a sequence, as a repetition sees it. -/
inductive Last where
  | nothing
  /-- A place in the text, such as its start. -/
  | anchor
  | repetition
  | item
  deriving Repr, DecidableEq

/-- A number behind a backslash: three octal digits are a character, anything else refers
to a group. -/
def numberEscape (first : Char) : Reader Width := do
  match ← take 1 Char.isDigit with
  | [second] =>
    match ← take (if isOctal first && isOctal second then 1 else 0) isOctal with
    | [third] => if number 8 [first, second, third] ≤ 0o377 then return .char else fail
    | _ => reference (number 10 [first, second])
  | _ => reference (number 10 [first])

/-- A backslash before `c`. -/
def escape (c : Char) : Reader (Last × Width) := do
  if anchors.contains c then return (.anchor, {})
  if classes.contains c || (controls.lookup c).isSome then return (.item, .char)
  match codeEscape? c with
  | some code =>
    let _ ← code
    return (.item, .char)
  | none =>
    if c == '0' then
      let _ ← take 2 isOctal
      return (.item, .char)
    else if c.isDigit then return (.item, ← numberEscape c)
    else if c.isAlpha then fail
    else return (.item, .char)

/-! ### Sets -/

/-- A backslash before `c` in a set: the code of a character, or none for a class. -/
def setEscape (c : Char) : Reader (Option Nat) := do
  if classes.contains c then return none
  if c == 'b' then return some 8
  match controls.lookup c, codeEscape? c with
  | some code, _ => return some code
  | none, some code => return some (← code)
  | none, none =>
    if isOctal c then
      let code := number 8 (c :: (← take 2 isOctal))
      if code ≤ 0o377 then return some code else fail
    else if c.isAlphanum then fail
    else return some (Text.codePoint c)

/-- One end of a range in a set. -/
def setItem : Token → Reader (Option Nat)
  | .char c => return some (Text.codePoint c)
  | .escaped c => setEscape c
  | .cut => fail

/-- The rest of a set; a bracket closes it unless it comes first. -/
def setRest (fuel : Nat) (isFirst : Bool) : Reader Unit := do
  match fuel with
  | 0 => fail
  | fuel + 1 =>
    let token ← next
    if token == .char ']' && !isFirst then return
    let low ← setItem token
    if !(← accept '-') then setRest fuel false
    else
      let token ← next
      if token == .char ']' then return
      match low, ← setItem token with
      | some low, some high => if low ≤ high then setRest fuel false else fail
      | _, _ => fail

end SchemaGraph.Pattern

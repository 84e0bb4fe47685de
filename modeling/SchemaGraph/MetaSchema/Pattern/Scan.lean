import SchemaGraph.Text.Half

/-! Reading a regular expression.

A pattern is read token by token. A token is a character, or a backslash with the
character behind it; a backslash with nothing behind it is found as soon as the token
before it is read (`moveTo`). The rules on references need to know which groups are
open, and how wide the text is that a part of the pattern can match, since a look
behind must know how far to go back (`Width`). -/
namespace SchemaGraph.Pattern

inductive Flaw where
  | malformed
  /-- A repetition count is out of range. -/
  | tooLarge
  /-- A repetition count has too many digits to be read. -/
  | tooLong
  /-- Flags for different kinds of text are set for the whole pattern. -/
  | mixedFlags
  /-- A look behind goes back too far. -/
  | tooFarBack
  deriving Repr, DecidableEq

namespace Flaw

def message : Flaw → String
  | malformed => "A pattern is malformed."
  | tooLarge => "A count is too large."
  | tooLong => "A count has too many digits."
  | mixedFlags => "Flags for different kinds of text are set."
  | tooFarBack => "A look behind goes back too far."

end Flaw

/-! ### Widths -/

/-- How many times an unbounded repetition counts; no count is as large. -/
def unbounded : Nat := 4294967295

/-- How many characters a part of a pattern can match: at least `least`, at most `most`. -/
structure Width where
  least : Nat := 0
  most : Nat := 0
  deriving Repr, DecidableEq

namespace Width

def char : Width := ⟨1, 1⟩

def append (a b : Width) : Width := ⟨a.least + b.least, a.most + b.most⟩

def either (a b : Width) : Width := ⟨min a.least b.least, max a.most b.most⟩

def repeated (width : Width) (low high : Nat) : Width := ⟨width.least * low, width.most * high⟩

/-- The same number of characters always, as far as widths are told apart. -/
def isFixed (width : Width) : Bool :=
  min width.least (unbounded - 1) == min width.most unbounded

/-- More characters than a look behind goes back. -/
def isFar (width : Width) : Bool := 2147483648 ≤ width.least

end Width

/-! ### Tokens -/

inductive Token where
  | char (c : Char)
  | escaped (c : Char)
  /-- A backslash with nothing behind it. -/
  | cut
  deriving Repr, DecidableEq

namespace Token

def ofText : List Char → List Token
  | [] => []
  | ['\\'] => [cut]
  | '\\' :: c :: rest => escaped c :: ofText rest
  | c :: rest => char c :: ofText rest

def text : Token → List Char
  | char c => [c]
  | escaped c => ['\\', c]
  | cut => ['\\']

/-- A character of a class that stands for itself. -/
def isIn (inClass : Char → Bool) : Token → Bool
  | char c => inClass c
  | _ => false

end Token

/-! ### What was met so far -/

/-- The unread tokens and what was met so far. -/
structure Scan where
  rest : List Token
  /-- The number of the next group. -/
  groups : Nat := 1
  names : List (List Char × Nat) := []
  /-- The widths of the groups that are closed. -/
  closed : List (Nat × Width) := []
  /-- Inside a look behind: the number of the first group that opened there. -/
  behind? : Option Nat := none
  /-- Groups that conditions refer to by number. -/
  conditions : List Nat := []
  /-- The flags set for the whole pattern. -/
  flags : List Char := []
  /-- Something is repeated. -/
  repeats : Bool := false
  /-- The widths of what the look behinds look for. -/
  lookBehinds : List Width := []

abbrev Reader := StateT Scan (Except Flaw)

def fail {α : Type} : Reader α := throw .malformed

/-! ### Steps -/

def moveTo (rest : List Token) : Reader Unit := do
  if rest == [.cut] then fail
  modify fun scan => { scan with rest }

def isNext (c : Char) : Reader Bool := do return (← get).rest.head? == some (.char c)

def accept (c : Char) : Reader Bool := do
  if ← isNext c then
    moveTo ((← get).rest.drop 1)
    return true
  else return false

def expect (c : Char) : Reader Unit := do
  if !(← accept c) then fail

/-- The next token, which must be there. -/
def next : Reader Token := do
  match (← get).rest with
  | token :: rest =>
    moveTo rest
    return token
  | [] => fail

/-- Up to `count` characters of a class. -/
def take (count : Nat) (inClass : Char → Bool) : Reader (List Char) := do
  let rest := (← get).rest
  let taken := (rest.take count).takeWhile (·.isIn inClass)
  if !taken.isEmpty then moveTo (rest.drop taken.length)
  return taken.flatMap Token.text

def digits : Reader (List Char) := do take (← get).rest.length Char.isDigit

/-- The text before the first `mark`, and the mark itself. -/
def through (mark : Char) : Reader (List Char) := do
  let rest := (← get).rest
  let taken := rest.takeWhile (· != .char mark)
  if taken.length == rest.length then fail
  moveTo (rest.drop (taken.length + 1))
  return taken.flatMap Token.text

/-- The text before the first `mark`, which must be some, and the mark itself. -/
def upTo (mark : Char) : Reader (List Char) := do
  let text ← through mark
  if text.isEmpty then fail else return text

/-! ### Numbers and references -/

def isOctal (c : Char) : Bool := '0' ≤ c && c ≤ '7'

def hexValue? (c : Char) : Option Nat :=
  if c.isDigit then some (c.toNat - '0'.toNat)
  else if 'a' ≤ c && c ≤ 'f' then some (c.toNat - 'a'.toNat + 10)
  else if 'A' ≤ c && c ≤ 'F' then some (c.toNat - 'A'.toNat + 10)
  else none

def number (base : Nat) (digits : List Char) : Nat :=
  digits.foldl (fun value c => value * base + (hexValue? c).getD 0) 0

/-- The width of a group that is closed and may be referred to here. -/
def reference (group : Nat) : Reader Width := do
  let scan ← get
  match scan.closed.lookup group with
  | none => fail
  | some width => if scan.behind?.any (· ≤ group) then fail else return width

def named (name : List Char) : Reader Nat := do
  match (← get).names.lookup name with
  | some group => return group
  | none => fail

end SchemaGraph.Pattern

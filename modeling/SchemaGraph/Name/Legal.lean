import SchemaGraph.Json.Display
import SchemaGraph.Text.Blank

/-! Legal names.

A name is a letter or an underscore followed by letters, digits and underscores,
all of them ASCII. `check` says what is wrong with a text that is none. `safe`
makes a field name out of any text and `enumKey` an enum value name out of any
literal: a text that passes for a name stays as it is, and in any other the blank
ends are dropped and every illegal character gives way to an underscore. -/
namespace SchemaGraph.Name

def isStart (c : Char) : Bool := c.isAlpha || c == '_'

def isPart (c : Char) : Bool := c.isAlphanum || c == '_'

def isLegal : List Char → Bool
  | [] => false
  | c :: rest => isStart c && rest.all isPart

/-! ### What is wrong with a name -/

inductive Flaw where
  | empty
  | badPart (name : String)
  | badStart (name : String)
  | reservedValue (name : String)
  deriving Repr, DecidableEq

namespace Flaw

def message : Flaw → String
  | empty => "Expected name to be a non-empty string."
  | badPart name => s!"Names must only contain [_a-zA-Z0-9] but {Text.quoted name} does not."
  | badStart name => s!"Names must start with [_a-zA-Z] but {Text.quoted name} does not."
  | reservedValue name => s!"Enum values cannot be named: {name}."

end Flaw

/-- The first flaw of a name, the characters after the first one looked at first. -/
def flaw? (name : String) : Option Flaw :=
  match name.toList with
  | [] => some .empty
  | c :: rest =>
    if !rest.all isPart then some (.badPart name)
    else if !isStart c then some (.badStart name)
    else none

/-- The names kept for the literals of the schema language. -/
def literals : List String := ["true", "false", "null"]

/-- The first flaw of an enum value's name. -/
def valueFlaw? (name : String) : Option Flaw :=
  (flaw? name).or (if literals.contains name then some (.reservedValue name) else none)

theorem flaw?_eq_none_iff (name : String) : flaw? name = none ↔ isLegal name.toList = true := by
  unfold flaw?
  split <;> rename_i heq
  · simp [isLegal, heq]
  · rename_i c rest
    rw [heq]
    simp only [isLegal, Bool.and_eq_true]
    by_cases hrest : rest.all isPart = true <;> by_cases hc : isStart c = true <;>
      simp [hrest, hc]

/-! ### Names out of any text -/

/-- Passes for a name: a legal name, with at most a line feed after it. -/
def passes (text : List Char) : Bool :=
  isLegal text || (text.getLast? == some '\n' && isLegal text.dropLast)

/-- The field name for any text. -/
def safeChars (text : List Char) : List Char :=
  if passes text then text
  else
    let name := (Text.strip text).map fun c => if isPart c then c else '_'
    if name.head?.all Char.isDigit then '_' :: name else name

def safe (text : String) : String := String.ofList (safeChars text.toList)

/-- The enum value name for any literal. -/
def enumKey (literal : Json) : String :=
  let key := safe literal.display
  if literals.contains key then key.push '_' else key

end SchemaGraph.Name

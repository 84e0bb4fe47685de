import SchemaGraph.Text.Blank

/-! Whole numbers in running text.

A whole number is written with the decimal digits of any script. A sign may stand in
front, underscores may stand between digits, and blanks around the whole. A number of
more than `mostDigits` digits is not read. -/
namespace SchemaGraph.Text

/-- The zeros of the scripts; the other nine digits follow each. -/
def zeros : List Nat := [
  48, 1632, 1776, 1984, 2406, 2534, 2662, 2790, 2918, 3046, 3174, 3302, 3430, 3558, 3664, 3792,
  3872, 4160, 4240, 6112, 6160, 6470, 6608, 6784, 6800, 6992, 7088, 7232, 7248, 42528, 43216,
  43264, 43472, 43504, 43600, 44016, 65296, 66720, 68912, 69734, 69872, 69942, 70096, 70384,
  70736, 70864, 71248, 71360, 71472, 71904, 72016, 72784, 73040, 73120, 92768, 92864, 93008,
  120782, 120792, 120802, 120812, 120822, 123200, 123632, 125264, 130032]

def digitValue? (c : Char) : Option Nat :=
  zeros.findSome? fun first =>
    if first ≤ c.toNat && c.toNat < first + 10 then some (c.toNat - first) else none

def mostDigits : Nat := 4300

/-- Blank around a number. The information separators are not. -/
def isBlankAround (c : Char) : Bool := isBlank c && !(0x1C ≤ c.toNat && c.toNat < 0x20)

/-- The values of digits, with at most one underscore between any two. -/
def digitValues? : List Char → Option (List Nat)
  | [] => none
  | [c] => (digitValue? c).map ([·])
  | c :: '_' :: rest => do return (← digitValue? c) :: (← digitValues? rest)
  | c :: rest => do return (← digitValue? c) :: (← digitValues? rest)

/-- The number without its sign. -/
def magnitude? (text : List Char) : Option Nat := do
  let digits ← digitValues? text
  if digits.length ≤ mostDigits then some (digits.foldl (fun value digit => value * 10 + digit) 0)
  else none

def integer? (text : List Char) : Option Int :=
  match ((text.dropWhile isBlankAround).reverse.dropWhile isBlankAround).reverse with
  | '-' :: rest => (magnitude? rest).map fun value => -(value : Int)
  | '+' :: rest => (magnitude? rest).map fun value => (value : Int)
  | rest => (magnitude? rest).map fun value => (value : Int)

end SchemaGraph.Text

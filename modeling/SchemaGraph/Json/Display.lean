import SchemaGraph.Json.Basic
import SchemaGraph.Text.Quoted

/-! The text of a value.

Messages, descriptions and enum keys show values as text. A text shows as itself
(`display`); anything else, and any text inside a container, shows in a written
form (`written`): `None`, `True` and `False`, quoted texts, whole numbers in
decimal, floating point numbers in their shortest decimal form. -/
namespace SchemaGraph

namespace Binary64

/-- Decimal exponents from `-4` up to but not including `16` are written out with a
point; the others have an exponent of at least two digits. -/
def positional (exponent : Int) : Bool := -4 ≤ exponent && exponent < 16

/-- `digits` with the decimal point after the first `point` of them. -/
def withPoint (digits : List Char) (point : Int) : List Char :=
  let places := point.toNat
  if point ≤ 0 then '0' :: '.' :: List.replicate (-point).toNat '0' ++ digits
  else if digits.length ≤ places then
    digits ++ List.replicate (places - digits.length) '0' ++ ['.', '0']
  else digits.take places ++ '.' :: digits.drop places

/-- `digits` with the point after the first one and an exponent of ten. -/
def withExponent (digits : List Char) (exponent : Int) : List Char :=
  let power := Nat.toDigits 10 exponent.natAbs
  let sign := if exponent < 0 then '-' else '+'
  let fraction := match digits.drop 1 with
    | [] => []
    | rest => '.' :: rest
  digits.take 1 ++ fraction ++ 'e' :: sign :: List.replicate (2 - power.length) '0' ++ power

/-- A magnitude in units in its shortest decimal form. -/
def magnitudeText (units : Nat) : List Char :=
  if units == 0 then ['0', '.', '0']
  else
    let (digits, grid) := shortest units
    let text := Nat.toDigits 10 digits
    let point := (text.length : Int) + grid
    let text := (text.reverse.dropWhile (· == '0')).reverse
    if positional (point - 1) then withPoint text point else withExponent text (point - 1)

def text : Binary64 → String
  | nan => "nan"
  | infinite negative => if negative then "-inf" else "inf"
  | finite negative units =>
    String.ofList (if negative then '-' :: magnitudeText units else magnitudeText units)

end Binary64

namespace Json

mutual

def written : Json → String
  | .null => "None"
  | .bool value => if value then "True" else "False"
  | .int value => toString value
  | .float value => value.text
  | .str text => Text.quoted text
  | .arr items => "[" ++ ", ".intercalate (writtenItems items) ++ "]"
  | .obj members => "\x7b" ++ ", ".intercalate (writtenMembers members) ++ "\x7d"

def writtenItems : List Json → List String
  | [] => []
  | x :: xs => written x :: writtenItems xs

def writtenMembers : List (String × Json) → List String
  | [] => []
  | (name, x) :: xs => (Text.quoted name ++ ": " ++ written x) :: writtenMembers xs

end

/-- What messages call the kind of a value. -/
def kindWord : Json → String
  | .null => "NoneType"
  | .bool _ => "bool"
  | .int _ => "int"
  | .float _ => "float"
  | .str _ => "str"
  | .arr _ => "list"
  | .obj _ => "dict"

/-- A value as it stands in running text. -/
def display : Json → String
  | .str text => text
  | value => value.written

end Json
end SchemaGraph

import SchemaGraph.Json.Display

/-! JSON text of a value.

The text is on one line. Quotes, backslashes and controls are escaped, and so are
the line ends of Unicode, so that a reader of lines never cuts a value in two;
all other characters stand for themselves. -/
namespace SchemaGraph.Json

def escapedChar (c : Char) : List Char :=
  if c == '"' || c == '\\' then ['\\', c]
  else if c.toNat < 0x20 || (0x7F ≤ c.toNat && c.toNat < 0xA0) || c == '\u2028' || c == '\u2029' then
    '\\' :: 'u' :: Text.hex 4 c.toNat
  else [c]

def literal (text : String) : String :=
  String.ofList ('"' :: text.toList.flatMap escapedChar ++ ['"'])

def numberText : Binary64 → String
  | .nan => "NaN"
  | .infinite negative => if negative then "-Infinity" else "Infinity"
  | value => value.text

mutual

def print : Json → String
  | .null => "null"
  | .bool value => if value then "true" else "false"
  | .int value => toString value
  | .float value => numberText value
  | .str text => literal text
  | .arr items => "[" ++ ", ".intercalate (printItems items) ++ "]"
  | .obj members => "\x7b" ++ ", ".intercalate (printMembers members) ++ "\x7d"

def printItems : List Json → List String
  | [] => []
  | x :: xs => print x :: printItems xs

def printMembers : List (String × Json) → List String
  | [] => []
  | (name, x) :: xs => (literal name ++ ": " ++ print x) :: printMembers xs

end

end SchemaGraph.Json

import SchemaGraph.Json.Display
import SchemaGraph.Text.Blank

/-! Plurals.

The plural of a type name is that of its last word: the trailing small letters
and the capital in front of them. A few words have plurals of their own; the
others take an ending that depends on their last letters. -/
namespace SchemaGraph.Name

def irregularPlurals : List (List Char × List Char) :=
  [("person", "people"), ("child", "children"), ("man", "men"), ("woman", "women"),
    ("mouse", "mice"), ("goose", "geese"), ("foot", "feet"), ("tooth", "teeth")].map
    fun (word, plural) => (word.toList, plural.toList)

/-- A name cut in front of its last word. -/
def cutLastWord (name : List Char) : List Char × List Char :=
  let small := (name.reverse.takeWhile Char.isLower).reverse
  let head := name.take (name.length - small.length)
  if small.isEmpty then (name, [])
  else match head.getLast? with
    | some c => if c.isUpper then (head.dropLast, c :: small) else (head, small)
    | none => (head, small)

/-- The word with a capital first letter if `model` has one. -/
def withCaseOf (model word : List Char) : List Char :=
  match model, word with
  | m :: _, w :: rest => if m.isUpper then w.toUpper :: rest else word
  | _, _ => word

/-- The name with a plural of its own for the last word. -/
def irregular? (name : List Char) : Option (List Char) :=
  let (head, word) := cutLastWord name
  (irregularPlurals.lookup (word.map Char.toLower)).map fun plural => head ++ withCaseOf word plural

/-- The name with the ending that its last letters ask for. -/
def regular (name : List Char) : List Char :=
  match name.reverse.map Char.toLower with
  | 's' :: _ | 'x' :: _ | 'z' :: _ | 'h' :: 'c' :: _ | 'h' :: 's' :: _ => name ++ ['e', 's']
  | 'y' :: before :: _ =>
    if ['a', 'e', 'i', 'o', 'u'].contains before then name ++ ['s']
    else name.dropLast ++ ['i', 'e', 's']
  | _ => name ++ ['s']

/-- The plural of a name; nothing stays nothing. -/
def pluralChars (name : List Char) : List Char :=
  if name.isEmpty then [] else (irregular? name).getD (regular name)

def plural (name : String) : String := String.ofList (pluralChars (Text.strip name.toList))

end SchemaGraph.Name

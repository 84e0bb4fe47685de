import SchemaGraph.Text.Lowercase

/-! Type names in camel case.

A name is made of the ASCII letters and digits of a text, in order; everything
else only separates words. Each word is capitalized. Words also meet without a
separator between them: before a capital that follows a small letter or a digit,
before the last of several capitals if a small letter follows it, and wherever
letters and digits meet. Whether a character starts a word can be told from its
two neighbours (`startsWord`), so a name is written in one pass (`camel`). -/
namespace SchemaGraph.Name

/-- A letter or digit that starts a word between its two neighbours. -/
def startsWord (previous : Option Char) (c : Char) (next : Option Char) : Bool :=
  if c.isUpper then !previous.any Char.isUpper || next.any Char.isLower
  else if c.isLower then !previous.any Char.isAlpha
  else !previous.any Char.isDigit

/-- The words of a text after the character `previous`, capitalized and joined. -/
def camel (previous : Option Char) : List Char → List Char
  | [] => []
  | c :: rest =>
    if c.isAlphanum then
      (if startsWord previous c rest.head? then c.toUpper else c.toLower) :: camel (some c) rest
    else camel (some c) rest

/-- An underscore in front of a leading digit. -/
def guardDigit (name : List Char) : List Char :=
  if name.head?.any Char.isDigit then '_' :: name else name

/-- The type name for any text: empty only if the text has no letter and no digit. -/
def typeName (text : String) : String :=
  String.ofList (guardDigit (camel none text.toList))

def lowerFirst (text : String) : String :=
  match text.toList with
  | [] => ""
  | c :: rest => String.ofList (Text.lowercase c ++ rest)

end SchemaGraph.Name

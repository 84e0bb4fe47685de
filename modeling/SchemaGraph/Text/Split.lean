/-! Splitting a text at marks.

`splitBy` gives the parts of a text between the characters of a class, be they empty. -/
namespace SchemaGraph.Text

/-- The parts of a text between characters of a class, the first one continuing `part`. A
text without such characters is one part. -/
def splitFrom (isMark : Char → Bool) (part : List Char) : List Char → List (List Char)
  | [] => [part.reverse]
  | c :: rest =>
    if isMark c then part.reverse :: splitFrom isMark [] rest
    else splitFrom isMark (c :: part) rest

/-- The parts of a text between characters of a class. -/
def splitBy (isMark : Char → Bool) (text : List Char) : List (List Char) := splitFrom isMark [] text

end SchemaGraph.Text

/-! Lines of a text.

Two notions of a line meet here. Running text ends a line at any vertical
control, information separator or Unicode line end, and a final line end opens
no further line (`lines`). A schema document knows line feeds and carriage
returns only, and every line end there opens a new, possibly empty line
(`documentLines`). A carriage return and the line feed after it are one line end
in both. -/
namespace SchemaGraph.Text

/-- The characters that end a line of running text. -/
def lineBreaks : List Char :=
  ['\n', '\r', '\u000b', '\u000c', '\u001c', '\u001d', '\u001e', '\u0085', '\u2028', '\u2029']

def isLineBreak (c : Char) : Bool := lineBreaks.contains c

/-- The lines of running text, the first one continuing `line`. -/
def linesFrom (line : List Char) : List Char → List (List Char)
  | [] => if line.isEmpty then [] else [line]
  | '\r' :: '\n' :: rest => line :: linesFrom [] rest
  | c :: rest => if isLineBreak c then line :: linesFrom [] rest else linesFrom (line ++ [c]) rest

/-- The lines of running text. -/
def lines (text : List Char) : List (List Char) := linesFrom [] text

/-- The lines of a document, the first one continuing `line`. -/
def documentLinesFrom (line : List Char) : List Char → List (List Char)
  | [] => [line]
  | '\r' :: '\n' :: rest => line :: documentLinesFrom [] rest
  | c :: rest =>
    if c == '\n' || c == '\r' then line :: documentLinesFrom [] rest
    else documentLinesFrom (line ++ [c]) rest

/-- The lines of a document: never none. -/
def documentLines (text : List Char) : List (List Char) := documentLinesFrom [] text

/-- The text with a line feed for every line end of a document. -/
def withLineFeeds : List Char → List Char
  | [] => []
  | '\r' :: '\n' :: rest => '\n' :: withLineFeeds rest
  | c :: rest => (if c == '\r' then '\n' else c) :: withLineFeeds rest

end SchemaGraph.Text

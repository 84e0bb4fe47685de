import SchemaGraph.Text.Lines
import SchemaGraph.Text.Quoted

/-! Descriptions in a schema document.

A description stands above what it describes: as a block between triple quotes if
the block can be read back as the same text (`fitsBlock`), and as an ordinary
literal with escapes if not. A block gets lines of its own for its quotes where
the text is long or has several lines, and where a quote or a backslash at its end
would run into the closing quotes. -/
namespace SchemaGraph.Sdl

def isIndent (c : Char) : Bool := c == ' ' || c == '\t'

/-- What is known of a text after some of its characters. -/
structure BlockScan where
  /-- The current line is blank so far. -/
  blankLine : Bool := true
  /-- The current line starts with an indent. -/
  indented : Bool := false
  /-- All lines that are not blank start with an indent. -/
  allIndented : Bool := true
  /-- A line has ended. -/
  severalLines : Bool := false

namespace BlockScan

/-- Takes in one more character, unless no block can hold it here. -/
def next? (scan : BlockScan) (c : Char) : Option BlockScan :=
  if c == '\n' then
    if scan.blankLine && !scan.severalLines then none
    else some { scan with severalLines := true, blankLine := true, indented := false }
  else if isIndent c then some { scan with indented := scan.indented || scan.blankLine }
  else if c.toNat ≤ 0x0F then none
  else some { scan with allIndented := scan.allIndented && scan.indented, blankLine := false }

end BlockScan

/-- A block can hold the text: it has no controls, its first and its last line are not
blank, and its lines have no indent in common. -/
def fitsBlock (text : List Char) : Bool :=
  text.isEmpty ||
    match text.foldlM BlockScan.next? {} with
    | some scan => !scan.blankLine && !(scan.allIndented && scan.severalLines)
    | none => false

/-- The text with a backslash in front of every triple quote. -/
def escapeQuotes : List Char → List Char
  | '"' :: '"' :: '"' :: rest => '\\' :: '"' :: '"' :: '"' :: escapeQuotes rest
  | c :: rest => c :: escapeQuotes rest
  | [] => []

def endsWith (text tail : List Char) : Bool := tail.isSuffixOf text

/-- The text as a block between triple quotes. -/
def block (text : List Char) : List Char :=
  let body := escapeQuotes text
  let lines := Text.documentLines body
  let single := lines.length == 1
  let forceLeading := !single && (lines.drop 1).all fun line => line.head?.all isIndent
  let tripleAtEnd := endsWith body ['\\', '"', '"', '"']
  let forceTrailing := (endsWith text ['"'] && !tripleAtEnd) || endsWith text ['\\']
  let several := !single || text.length > 70 || forceTrailing || forceLeading || tripleAtEnd
  let indentFirst := single && text.head?.any isIndent
  let leading := if (several && !indentFirst) || forceLeading then ['\n'] else []
  let trailing := if several || forceTrailing then ['\n'] else []
  let quotes := ['"', '"', '"']
  quotes ++ leading ++ body ++ trailing ++ quotes

def escapedChar (c : Char) : List Char :=
  if c == '"' || c == '\\' then ['\\', c]
  else if c == '\u0008' then ['\\', 'b']
  else if c == '\t' then ['\\', 't']
  else if c == '\n' then ['\\', 'n']
  else if c == '\u000c' then ['\\', 'f']
  else if c == '\r' then ['\\', 'r']
  else if c.toNat < 0x20 || (0x7F ≤ c.toNat && c.toNat < 0xA0) then
    '\\' :: 'u' :: (Text.hex 4 c.toNat).map Char.toUpper
  else [c]

def literal (text : List Char) : List Char := '"' :: text.flatMap escapedChar ++ ['"']

def descriptionText (text : String) : String :=
  let chars := text.toList
  String.ofList (if fitsBlock chars then block chars else literal chars)

end SchemaGraph.Sdl

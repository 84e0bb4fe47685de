import SchemaGraph.Text.Half
import SchemaGraph.Text.Printable

/-! Quoted text.

A text shown as a value stands between single quotes, or between double quotes
when it holds single ones only. The quote in use and the backslash are escaped,
the common controls have letters, and every other unprintable character, like half
a pair, is given by its code in hexadecimal, as short as its size allows. -/
namespace SchemaGraph.Text

/-- The code in lower-case hexadecimal, at least `width` digits long. -/
def hex (width code : Nat) : List Char :=
  let digits := Nat.toDigits 16 code
  List.replicate (width - digits.length) '0' ++ digits

/-- The quote that a text is shown between. -/
def quoteFor (text : List Char) : Char :=
  if text.contains '\'' && !text.contains '"' then '"' else '\''

/-- A code in hexadecimal, behind a letter that tells the number of digits. -/
def codeEscape (code : Nat) : List Char :=
  if code < 0x100 then '\\' :: 'x' :: hex 2 code
  else if code < 0x10000 then '\\' :: 'u' :: hex 4 code
  else '\\' :: 'U' :: hex 8 code

/-- One character between the quotes. -/
def escaped (quote c : Char) : List Char :=
  if c == quote || c == '\\' then ['\\', c]
  else if c == '\n' then ['\\', 'n']
  else if c == '\r' then ['\\', 'r']
  else if c == '\t' then ['\\', 't']
  else if isPrintable c then [c]
  else codeEscape (codePoint c)

def quoted (text : String) : String :=
  let quote := quoteFor text.toList
  String.ofList (quote :: text.toList.flatMap (escaped quote) ++ [quote])

/-- The text with halves of pairs given by their codes. -/
def withoutHalves (text : String) : String :=
  String.ofList (text.toList.flatMap fun c =>
    match half? c with
    | some unit => codeEscape unit
    | none => [c])

end SchemaGraph.Text

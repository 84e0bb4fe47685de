/-! Halves of pairs.

In units of sixteen bits, a character beyond the basic plane is a pair. A text can
also name one half of a pair by itself, which is no character. Such a half is kept
as a private character of the last plane, at a fixed distance from its code, and
`codePoint` gives the code back. So the private characters from U+10D800 to U+10DFFF
cannot be told from halves: a text that really has one of them counts as one that no
file takes. -/
namespace SchemaGraph.Text

/-- The first half of a pair. -/
def isHighHalf (unit : Nat) : Bool := 0xD800 ≤ unit && unit < 0xDC00

/-- The second half of a pair. -/
def isLowHalf (unit : Nat) : Bool := 0xDC00 ≤ unit && unit < 0xE000

/-- The code of the character that a pair stands for. -/
def pairCode (high low : Nat) : Nat := 0x10000 + (high - 0xD800) * 0x400 + (low - 0xDC00)

/-- How far the characters that stand for halves are from the codes of these. -/
def halfDistance : Nat := 0x100000

/-- A unit as a character. -/
def ofUnit (unit : Nat) : Char :=
  Char.ofNat (if isHighHalf unit || isLowHalf unit then unit + halfDistance else unit)

/-- The half that a character stands for. -/
def half? (c : Char) : Option Nat :=
  let unit := c.toNat - halfDistance
  if isHighHalf unit || isLowHalf unit then some unit else none

/-- The code that a character stands for. -/
def codePoint (c : Char) : Nat := (half? c).getD c.toNat

/-- The text has halves of pairs in it, so that no file and no output takes it. -/
def hasHalves (text : String) : Bool := text.toList.any fun c => (half? c).isSome

end SchemaGraph.Text

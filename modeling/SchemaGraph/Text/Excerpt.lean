import SchemaGraph.Text.Lines

/-! Places in a document.

A place is a line and a column, both counted from one. `excerpt` shows it to a
person: the line with a caret below it, between the lines before and after it. A
line too long for that is shown in parts, up to the one after the place. -/
namespace SchemaGraph.Text

structure Place where
  line : Nat
  column : Nat
  deriving Repr, DecidableEq

namespace Place

/-- The place `offset` characters into a text. -/
def ofOffset (text : List Char) (offset : Nat) : Place :=
  let lines := documentLines (text.take offset)
  ⟨lines.length, (lines.getLast?.getD []).length + 1⟩

end Place

/-- The text at the right end of `width` columns. -/
def alignRight (width : Nat) (text : List Char) : List Char :=
  List.replicate (width - text.length) ' ' ++ text

/-- Lines behind labels, which are aligned at the right. -/
def labelled (lines : List (String × List Char)) : List Char :=
  let width := (lines.map (·.1.length)).foldl max 0
  ['\n'].intercalate (lines.map fun (label, line) =>
    alignRight width label.toList ++ if line.isEmpty then [] else ' ' :: line)

/-- The longest line that is shown whole. -/
def longestLine : Nat := 120

def partLength : Nat := 80

def parts (line : List Char) : List (List Char) :=
  (List.range ((line.length + partLength - 1) / partLength)).map fun i =>
    (line.drop (i * partLength)).take partLength

def caret (column : Nat) : String × List Char := ("|", alignRight column ['^'])

def label (line : Nat) : String := s!"{line} |"

/-- The text around a place. -/
def excerpt (text : List Char) (place : Place) : List Char :=
  let lines := documentLines text
  let line := lines.getD (place.line - 1) []
  if longestLine < line.length then
    let parts := parts line
    let index := min ((place.column - 1) / partLength) (parts.length - 1)
    labelled <|
      [(label place.line, parts.headD [])] ++
      ((parts.take (index + 1)).drop 1).map ("|", ·) ++
      [caret (place.column - index * partLength)] ++
      (parts[index + 1]?.toList).map ("|", ·)
  else
    let before? := if place.line ≤ 1 then none else lines[place.line - 2]?
    labelled <|
      before?.toList.map (label (place.line - 1), ·) ++
      [(label place.line, line), caret place.column] ++
      (lines[place.line]?.toList).map (label (place.line + 1), ·)

end SchemaGraph.Text

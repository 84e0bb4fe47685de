import SchemaGraph.Text.Split

/-! Tables of names.

A table lists names in the order of their codes, a comma or a line end between two. As
names next to one another are alike, what a name shares with the one before it is not
written again: a digit in front tells how many words it takes over from the start of that
name, which is as many as the name before did if there is no digit, and a number behind a
plus sign tells how many it takes over from the end. Frequent words are single small
letters, each table having its own. Names that count up, in a number or by a letter at
their ends, are one item with their number behind an asterisk. Where codes do not follow
one another, the next code stands behind an equals sign. Numbers are hexadecimal. So
`=41,LATINaA*3,GREEK+2` are four names from U+0041 on, `LATIN LETTER A` to `LATIN LETTER C`
and `GREEK LETTER C`, if `a` stands for `LETTER`. -/
namespace SchemaGraph.Text.CharacterName

/-- The words of a name. -/
abbrev Words := List (List Char)

structure Table where
  /-- The words that the small letters stand for, from `a` on. -/
  shorthand : List String
  names : String

/-! ### Items -/

/-- The value of a digit up to `F`. -/
def digitOf (c : Char) : Nat := if c.isDigit then c.toNat - 48 else c.toNat - 55

def hexadecimal (digits : List Char) : Nat :=
  digits.foldl (fun value c => value * 16 + digitOf c) 0

/-- The number that stands behind a mark in an item, before the next one. -/
def numberBehind? (mark : Char) (item : List Char) : Option Nat :=
  match item.dropWhile (· != mark) with
  | [] => none
  | _ :: digits => some (hexadecimal (digits.takeWhile (· != '*')))

/-- The words of an item's text, the small letters written out. -/
def Table.wordsOf (table : Table) (text : List Char) : Words :=
  let spelled := text.flatMap fun c =>
    if c.isLower then ' ' :: (table.shorthand.getD (c.toNat - 97) "").toList ++ [' '] else [c]
  (splitBy (· == ' ') spelled).filter (!·.isEmpty)

/-! ### Counting up -/

/-- The next one in counting, for a word read from its end. -/
def nextOfReversed : List Char → List Char
  | '9' :: rest => '0' :: nextOfReversed rest
  | c :: rest => Char.ofNat (c.toNat + 1) :: rest
  | [] => []

/-- A name and those after it, as many as there are in the count. -/
def series (name : Words) : Nat → List Words
  | 0 => []
  | count + 1 =>
    let last := (name.getLastD []).reverse
    name :: series (name.dropLast ++ [(nextOfReversed last).reverse]) count

/-! ### Finding a name -/

/-- What to go on from in a table. -/
structure Place where
  code : Nat := 0
  /-- The last name. -/
  name : Words := []
  /-- How many words the last item took over from the start of the name before it. -/
  kept : Nat := 0

namespace Table

/-- The names that an item stands for. -/
def namesOf (table : Table) (place : Place) (kept : Nat) (item : List Char) : List Words :=
  let text := item.takeWhile fun c => c != '+' && c != '*'
  let shared := (numberBehind? '+' item).getD 0
  let name := place.name.take kept ++ table.wordsOf text ++
    place.name.drop (place.name.length - shared)
  series name ((numberBehind? '*' item).getD 1)

/-- The code of a name among some items, or the place behind them. -/
def findAmong (table : Table) (wanted : Words) (place : Place) :
    List (List Char) → Nat ⊕ Place
  | [] => .inr place
  | ('=' :: code) :: rest => table.findAmong wanted { place with code := hexadecimal code } rest
  | item :: rest =>
    let digits := item.takeWhile Char.isDigit
    let kept := if digits.isEmpty then place.kept else hexadecimal digits
    let names := table.namesOf place kept (item.drop digits.length)
    match names.idxOf? wanted with
    | some index => .inl (place.code + index)
    | none =>
      table.findAmong wanted ⟨place.code + names.length, names.getLastD [], kept⟩ rest

/-- The code of a name among the lines, from a place on. -/
def findInLines (table : Table) (wanted : Words) (place : Place) : List String → Option Nat
  | [] => none
  | line :: rest =>
    let items := splitBy (· == ',') (line.toList.dropWhile (· == ' '))
    match table.findAmong wanted place (items.filter (!·.isEmpty)) with
    | .inl code => some code
    | .inr place => table.findInLines wanted place rest

def find? (table : Table) (wanted : Words) : Option Nat :=
  table.findInLines wanted {} (table.names.splitOn "\n")

end Table

end SchemaGraph.Text.CharacterName

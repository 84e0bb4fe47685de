/-! Words that are nearly the same.

The distance of two words is the number of edits that lead from one to the other: to
put in, take out or replace a character, or to swap two neighbours (`editDistance`).
`suggestions` are the words near enough to a word to be what was meant by it, the
nearest first. -/
namespace SchemaGraph.Text

/-! ### Distance -/

/-- One more cell of a row of distances: `row` holds the cells before it, `above` the row of
the previous character of `a`, and `earlier` the one before that. -/
def editCell (a b : Array Char) (earlier above row : Array Nat) (i j : Nat) : Nat :=
  let cost := if a[i]? == b[j]? then 0 else 1
  let edited := min (min (above.getD (j + 1) 0 + 1) (row.getD j 0 + 1)) (above.getD j 0 + cost)
  if 0 < i && 0 < j && a[i]? == b[j - 1]? && a[i - 1]? == b[j]? then
    min edited (earlier.getD (j - 1) 0 + 1)
  else edited

/-- The distances of the first `i + 1` characters of `a` to every beginning of `b`. -/
def editRow (a b : Array Char) (earlier above : Array Nat) (i : Nat) : Array Nat :=
  (List.range b.size).foldl (fun row j => row.push (editCell a b earlier above row i j)) #[i + 1]

/-- The number of edits that lead from one word to the other. -/
def editDistance (a b : List Char) : Nat :=
  let a := a.toArray
  let b := b.toArray
  let start := (List.range (b.size + 1)).toArray
  let (_, last) := (List.range a.size).foldl
    (fun (earlier, above) i => (above, editRow a b earlier above i)) (#[], start)
  last.getD b.size 0

/-- The distance of a word to another, where any change of case counts as a single edit. -/
def wordDistance (word other : String) : Nat :=
  if word == other then 0
  else if word.toLower == other.toLower then 1
  else editDistance word.toLower.toList other.toLower.toList

/-! ### Natural order -/

/-- The value of a run of digits; any other text has none. -/
def runValue (part : List Char) : Nat :=
  part.foldl (fun n c => if c.isDigit then n * 10 + (c.toNat - '0'.toNat) else 0) 0

/-- The runs of digits and the texts between them. -/
def runs (text : List Char) : List (List Char) :=
  text.foldr (fun c runs =>
    match runs with
    | run :: rest =>
      if run.all Char.isDigit == c.isDigit then (c :: run) :: rest else [c] :: runs
    | [] => [[c]]) []

/-- The runs of a text with their values. -/
def naturalParts (text : String) : List (Nat × String) :=
  (runs text.toList).map fun run => (runValue run, String.ofList run)

/-- Stands before or is the same, part by part: a run of digits by its value. -/
def naturalLe : List (Nat × String) → List (Nat × String) → Bool
  | [], _ => true
  | _ :: _, [] => false
  | (m, s) :: a, (n, t) :: b =>
    if m == n && s == t then naturalLe a b
    else if m == n then decide (s < t)
    else decide (m < n)

/-! ### Suggestions -/

/-- The distance up to which a word may be meant by another. -/
def tolerance (word : String) : Nat := word.length * 2 / 5 + 1

/-- The words that may be meant by a word, the nearest first. -/
def suggestions (word : String) (others : List String) : List String :=
  let near := others.eraseDups.filterMap fun other =>
    let distance := wordDistance word other
    if distance ≤ tolerance word then some (distance, naturalParts other, other) else none
  let sorted := near.mergeSort fun (m, a, _) (n, b, _) => if m == n then naturalLe a b else m < n
  sorted.map fun (_, _, other) => other

def mostSuggestions : Nat := 5

def alternatives : List String → String
  | [] => ""
  | [word] => word
  | [first, second] => s!"{first} or {second}"
  | words => ", ".intercalate words.dropLast ++ ", or " ++ words.getLast?.getD ""

/-- A question for what was meant, if there is anything to suggest. -/
def didYouMean (words : List String) : String :=
  match (words.take mostSuggestions).map fun word => s!"'{word}'" with
  | [] => ""
  | words => s!" Did you mean {alternatives words}?"

end SchemaGraph.Text

/-! Words that look alike.

Two words look alike if they have long pieces in common. The longest common piece is
taken first, and then the longest ones on either side of it; `commonLength` is how
many characters they have together. `alike` finds the words that have at least three
fifths in common with a word. -/
namespace SchemaGraph.Text

/-- The number of characters at the start of both texts. -/
def sharedLead : List Char → List Char → Nat
  | a :: as, b :: bs => if a == b then sharedLead as bs + 1 else 0
  | _, _ => 0

/-- A piece that stands `first` characters into one text and `second` into the other. -/
structure CommonPiece where
  first : Nat := 0
  second : Nat := 0
  length : Nat := 0
  deriving Repr, DecidableEq

/-- The longest common piece; of several, the one that comes first. -/
def longestPiece (a b : List Char) : CommonPiece :=
  (List.range a.length).foldl (fun piece i =>
    (List.range b.length).foldl (fun piece j =>
      let length := sharedLead (a.drop i) (b.drop j)
      if piece.length < length then ⟨i, j, length⟩ else piece) piece) {}

/-- The number of characters in common pieces, with at most `fuel` pieces one in another. -/
def commonLengthWithin : Nat → List Char → List Char → Nat
  | 0, _, _ => 0
  | fuel + 1, a, b =>
    let piece := longestPiece a b
    if piece.length == 0 then 0
    else
      piece.length +
        commonLengthWithin fuel (a.take piece.first) (b.take piece.second) +
        commonLengthWithin fuel (a.drop (piece.first + piece.length))
          (b.drop (piece.second + piece.length))

/-- The number of characters that two texts have in common pieces. -/
def commonLength (a b : List Char) : Nat := commonLengthWithin a.length a b

/-- A common length among the characters of two words is three fifths of them or more. -/
def isClose (common total : Nat) : Bool := 3 * total ≤ 10 * common

def mostAlike : Nat := 3

/-- The words that look like a word, the most alike first. -/
def alike (word : String) (others : List String) : List String :=
  let near := others.filterMap fun other =>
    let total := other.length + word.length
    if isClose (min other.length word.length) total then
      let common := commonLength other.toList word.toList
      if isClose common total then some (common, total, other) else none
    else none
  let sorted := near.mergeSort fun (m, p, a) (n, q, b) =>
    if m * q == n * p then b ≤ a else n * p < m * q
  (sorted.take mostAlike).map fun (_, _, other) => other

end SchemaGraph.Text

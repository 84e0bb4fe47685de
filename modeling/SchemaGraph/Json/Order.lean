import SchemaGraph.Json.Basic
import SchemaGraph.Text.Half

/-! The order of values.

Numbers come in their order, truth values counting as numbers; texts come by their
codes, and arrays item by item. Other values have no order, and values of different
kinds have none between them (`before?`). Not-a-number comes neither before nor after
another number, so that some lists have no one order: which comparisons are made
decides what `sorted?` makes of them. A run at the front is kept, turned round if it
falls, and the items behind it find their places by halving. -/
namespace SchemaGraph.Json

def codes (text : String) : List Nat := text.toList.map Text.codePoint

mutual

/-- The first value comes before the second; none if they have no order. -/
def before? : Json → Json → Option Bool
  | .arr xs, .arr ys => beforeItems? xs ys
  | .str a, .str b => some (decide (codes a < codes b))
  | .float a, .float b => some (a.lt b)
  | .float a, b => b.asInt?.map (a.ltInt ·)
  | a, .float b => a.asInt?.map (b.gtInt ·)
  | a, b => a.asInt?.bind fun m => b.asInt?.map fun n => decide (m < n)

/-- The first items that differ decide. -/
def beforeItems? : List Json → List Json → Option Bool
  | [], ys => some (!ys.isEmpty)
  | _ :: _, [] => some false
  | x :: xs, y :: ys => if same x y then beforeItems? xs ys else before? x y

end

/-! ### Sorting -/

/-- The items that go on from `last` in one direction, and the others. -/
def splitRun {α : Type} (before : α → α → Option Bool) (falling : Bool) (last : α) :
    List α → Option (List α × List α)
  | [] => some ([], [])
  | item :: rest => do
    if (← before item last) != falling then return ([], item :: rest)
    let (run, others) ← splitRun before falling item rest
    return (item :: run, others)

/-- The place of an item among sorted ones, between two places. -/
def placeIn {α : Type} (before : α → α → Option Bool) (item : α) (sorted : List α)
    (low high : Nat) : Option Nat :=
  if low < high then
    let middle := low + (high - low) / 2
    match sorted[middle]? with
    | none => some low
    | some other => do
      if ← before item other then placeIn before item sorted low middle
      else placeIn before item sorted (middle + 1) high
  else some low
termination_by high - low

/-- Sorted items with one more, behind those that it equals. -/
def insertSorted {α : Type} (before : α → α → Option Bool) (sorted : List α) (item : α) :
    Option (List α) := do
  return sorted.insertIdx (← placeIn before item sorted 0 sorted.length) item

/-- The items in order, if all that are compared have one. -/
def sorted? {α : Type} (before : α → α → Option Bool) : List α → Option (List α)
  | first :: second :: rest => do
    let falling ← before second first
    let (run, others) ← splitRun before falling second rest
    let run := first :: second :: run
    others.foldlM (insertSorted before) (if falling then run.reverse else run)
  | items => some items

end SchemaGraph.Json

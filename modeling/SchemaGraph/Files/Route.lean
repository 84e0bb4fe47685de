import SchemaGraph.Text.Split

/-! Routes through a file tree.

A route is a path as it is written: the names to follow, from the root or from the
working directory. Empty names and single dots lead nowhere and are dropped, so
every route has one spelling (`Route.text`), but that exactly two slashes in front
are kept. Two dots are a step like any other; where it leads depends on the tree. -/
namespace SchemaGraph

structure Route where
  isAbsolute : Bool
  /-- Spelled with two slashes in front. -/
  isDoubled : Bool := false
  steps : List String
  deriving Repr, DecidableEq

namespace Route

/-- A step that leads nowhere. -/
def isVoid (step : String) : Bool := step == "" || step == "."

def ofText (text : String) : Route :=
  let names := (Text.splitBy (· == '/') text.toList).map String.ofList
  let slashes := (text.toList.takeWhile (· == '/')).length
  { isAbsolute := 0 < slashes, isDoubled := slashes == 2
    steps := names.filter fun step => !isVoid step }

def text (route : Route) : String :=
  let names := "/".intercalate route.steps
  if route.isDoubled then "//" ++ names
  else if route.isAbsolute then "/" ++ names
  else if route.steps.isEmpty then "." else names

/-- The last step, or nothing where there are none. -/
def name (route : Route) : String := route.steps.getLast?.getD ""

def parent (route : Route) : Route := { route with steps := route.steps.dropLast }

/-- No file system takes the route. -/
def isIllegal (route : Route) : Bool := route.steps.any fun step => step.toList.contains '\x00'

/-- The location that steps lead to if nothing is in the way, with two dots leading one up. -/
def walk (start : List String) (steps : List String) : List String :=
  steps.foldl (fun here step => if step == ".." then here.dropLast else here ++ [step]) start

/-- The absolute route to the same place, as seen from a working directory. -/
def resolve (workingDirectory : List String) (route : Route) : Route :=
  let start := if route.isAbsolute then [] else workingDirectory
  { isAbsolute := true, steps := walk start route.steps }

end Route
end SchemaGraph

import SchemaGraph.Fault
import SchemaGraph.Files.Route

/-! File trees.

A file tree maps locations, the names from the root down, to directories and files
with a content, and one of its directories is the working directory. The root is
always there. Following a route needs a directory at every step but the last.
`makeDirectories` makes what is missing on a route, from the first missing directory
on, and what it has made stays if it fails further down.

Work on a file tree is a `FileWork`: it can fail, and what it did to the tree
before it failed stays done. -/
namespace SchemaGraph

inductive Entry where
  | directory
  | file (content : String)
  deriving Repr, DecidableEq

/-- The names from the root down. -/
abbrev Location := List String

structure FileTree where
  entries : List (Location × Entry) := []
  workingDirectory : Location := []
  deriving Repr

abbrev FileWork := ExceptT Fault (StateM FileTree)

namespace FileTree

/-! ### Entries -/

def lookup (location : Location) (entries : List (Location × Entry)) : Option Entry :=
  (entries.find? fun (key, _) => key == location).map (·.2)

def get? (tree : FileTree) (location : Location) : Option Entry :=
  if location.isEmpty then some .directory else lookup location tree.entries

def without (location : Location) (entries : List (Location × Entry)) :
    List (Location × Entry) :=
  entries.filter fun (key, _) => key != location

def put (tree : FileTree) (location : Location) (entry : Entry) : FileTree :=
  { tree with entries := without location tree.entries ++ [(location, entry)] }

def remove (tree : FileTree) (location : Location) : FileTree :=
  { tree with entries := without location tree.entries }

theorem lookup_without_self (location : Location) (entries : List (Location × Entry)) :
    lookup location (without location entries) = none := by
  simp [lookup, without]

theorem lookup_without_of_ne {location other : Location} (h : other ≠ location)
    (entries : List (Location × Entry)) :
    lookup other (without location entries) = lookup other entries := by
  simp only [lookup, without, List.find?_filter]
  congr 2
  funext entry
  by_cases hkey : entry.1 = other
  · simp [hkey, h]
  · simp [hkey]

theorem get?_put_self (tree : FileTree) {location : Location} (h : location ≠ [])
    (entry : Entry) : (tree.put location entry).get? location = some entry := by
  have hfound : lookup location (without location tree.entries ++ [(location, entry)]) =
      some entry := by
    have hnone := lookup_without_self location tree.entries
    simp only [lookup, Option.map_eq_none_iff] at hnone
    simp [lookup, List.find?_append, hnone]
  simp [get?, put, h, hfound]

theorem get?_put_of_ne (tree : FileTree) {location other : Location} (h : other ≠ location)
    (entry : Entry) : (tree.put location entry).get? other = tree.get? other := by
  have hfound : lookup other (without location tree.entries ++ [(location, entry)]) =
      lookup other tree.entries := by
    rw [← lookup_without_of_ne h tree.entries]
    simp [lookup, List.find?_append, Ne.symm h]
  simp [get?, put, hfound]

/-! ### Following routes -/

/-- A name takes at most this many bytes. -/
def longestName : Nat := 255

/-- The location that steps lead to from a location, whether or not anything stands there. -/
def follow (tree : FileTree) (here : Location) : List String → Except Fault Location
  | [] => .ok here
  | step :: rest =>
    match tree.get? here with
    | none => .error .noSuchFile
    | some (.file _) => .error .notDirectory
    | some .directory =>
      if step == ".." then follow tree here.dropLast rest
      else if longestName < step.utf8ByteSize then .error .nameTooLong
      else follow tree (here ++ [step]) rest

/-- A route's spelling takes at most this many bytes. -/
def longestRoute : Nat := 4095

def start (tree : FileTree) (route : Route) : Location :=
  if route.isAbsolute then [] else tree.workingDirectory

def locate (tree : FileTree) (route : Route) : Except Fault Location :=
  if route.isIllegal then .error .illegalPath
  else if longestRoute < route.text.utf8ByteSize then .error .nameTooLong
  else tree.follow (tree.start route) route.steps

def find? (tree : FileTree) (route : Route) : Except Fault (Option Entry) :=
  match tree.locate route with
  | .ok location => .ok (tree.get? location)
  | .error .nameTooLong => .error .nameTooLong
  | .error _ => .ok none

def read (tree : FileTree) (route : Route) : Except Fault String := do
  match tree.get? (← tree.locate route) with
  | none => throw .noSuchFile
  | some .directory => throw .isDirectory
  | some (.file content) => return content

/-! ### Directories -/

def isBelow (directory location : Location) : Bool :=
  directory.isPrefixOf location && directory.length < location.length

/-- What stands below a directory, by route from there, in order of the spelling. -/
def listing (tree : FileTree) (directory : Location) : List (String × Entry) :=
  let below := tree.entries.filter fun (location, _) => isBelow directory location
  let named := below.map fun (location, entry) =>
    ("/".intercalate (location.drop directory.length), entry)
  named.mergeSort fun a b => a.1 ≤ b.1

/-- The directories above a location, the root left out. -/
def above (location : Location) : List Location :=
  (List.range (location.length - 1)).map fun n => location.take (n + 1)

/-- The tree with the directories above a location, for `plant`. -/
def putAbove (tree : FileTree) (location : Location) : FileTree :=
  (above location).foldl (fun tree directory =>
    match tree.get? directory with
    | some _ => tree
    | none => tree.put directory .directory) tree

/-- The tree with a file and the directories above it. This is how a tree is laid out to run the
command on; the command itself makes every directory with `makeDirectories`. -/
def plant (tree : FileTree) (location : Location) (content : String) : FileTree :=
  (tree.putAbove location).put location (.file content)

end FileTree

namespace FileWork

def on {α : Type} (tree : FileTree) (work : FileWork α) : Except Fault α × FileTree :=
  (work.run.run tree).run

/-- Work that leaves the tree alone. -/
def lift {α : Type} (result : Except Fault α) : FileWork α := ExceptT.mk (pure result)

/-- Makes a directory, unless it is there. `route` leads to it. -/
def makeDirectory (route : Route) (location : Location) : FileWork Unit := do
  let tree ← get
  match tree.get? location with
  | some .directory => return
  | some (.file _) => throw (.fileExists route.text)
  | none => set (tree.put location .directory)

/-- Makes the directories that steps lead to from a directory, which `route` leads to. -/
def makeBelow (route : Route) (here : Location) : List String → FileWork Unit
  | [] => return
  | step :: rest => do
    let route := { route with steps := route.steps ++ [step] }
    if step == ".." then makeBelow route here.dropLast rest
    else if FileTree.longestName < step.utf8ByteSize then throw .nameTooLong
    else
      makeDirectory route (here ++ [step])
      makeBelow route (here ++ [step]) rest

/-- Goes along steps as far as there are directories, and makes those that are missing. -/
def makeMissing (route : Route) (here : Location) : List String → FileWork Unit
  | [] => return
  | step :: rest => do
    let further := { route with steps := route.steps ++ [step] }
    if step == ".." then makeMissing further here.dropLast rest
    else if FileTree.longestName < step.utf8ByteSize then throw .nameTooLong
    else match (← get).get? (here ++ [step]) with
      | some .directory => makeMissing further (here ++ [step]) rest
      | some (.file _) => throw (if rest.isEmpty then .fileExists further.text else .notDirectory)
      | none => makeBelow route here (step :: rest)

/-- Makes the directory that a route leads to, and whatever is missing on the way. -/
def makeDirectories (route : Route) : FileWork Unit := do
  if route.isIllegal then throw .illegalPath
  if FileTree.longestRoute < route.text.utf8ByteSize then throw .nameTooLong
  let tree ← get
  makeMissing { route with steps := [] } (tree.start route) route.steps

end FileWork
end SchemaGraph

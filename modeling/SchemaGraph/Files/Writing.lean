import SchemaGraph.Config
import SchemaGraph.Files.Tree

/-! Writing a file all or nothing.

`write` puts the content into a staged file beside the target, has it checked there
and only then puts it in the target's place. Whatever goes wrong, the staged file
is removed and the target is as it was; only directories made on the way to it may
remain. -/
namespace SchemaGraph

/-- A check of a file's content before it counts as written. It returns, or it ends in a fault
that can be caught; an interruption that is not caught would leave the staged file behind. -/
abbrev ContentCheck := String → Except Fault Unit

def schemaCheck : ContentCheck := fun content =>
  (Sdl.check content).mapError fun rejection =>
    if rejection.isCut then .cutText else .invalidSdl rejection

/-- A content can be in a file, and passes the check if it has to. -/
def vet (check : ContentCheck) (content : String) (validate : Bool) : Except Fault Unit := do
  if Text.hasHalves content then throw .unencodable
  if validate then check content

/-- The decimal digits of a number, at least eight of them. -/
def serialNumber (n : Nat) : String :=
  let digits := (toString n).toList
  String.ofList (List.replicate (8 - digits.length) '0' ++ digits)

/-- The names under which a file can be staged. -/
def stagedName (name : String) (n : Nat) : String := s!".{name}.{serialNumber n}.tmp"

namespace FileTree

/-- The first of `tries` staged names, from number `n` on, that is free in a directory. -/
def freeName? (tree : FileTree) (directory : Location) (name : String) (n : Nat) :
    Nat → Option String
  | 0 => none
  | tries + 1 =>
    let staged := stagedName name n
    match tree.get? (directory ++ [staged]) with
    | none => some staged
    | some _ => freeName? tree directory name (n + 1) tries

theorem get?_freeName? {tree : FileTree} {directory : Location} {name staged : String}
    {n tries : Nat} (h : tree.freeName? directory name n tries = some staged) :
    tree.get? (directory ++ [staged]) = none := by
  induction tries generalizing n with
  | zero => simp [freeName?] at h
  | succ tries ih =>
    simp only [freeName?] at h
    split at h
    · rename_i hfree
      cases h
      exact hfree
    · exact ih h

/-- A route that leads to something is barred unless that may be replaced. -/
def unbarred (tree : FileTree) (mode : OutputMode) (route : Route) : Except Fault Unit := do
  if mode == .error then
    if (← tree.find? route).isSome then throw (.outputExists route.text)

end FileTree

namespace FileWork

/-- The names tried before staging is given up. -/
def stagingTries : Nat := 10000

/-- Puts a content into a new file in a directory, for a target's name. -/
def stage (directory : Location) (name content : String) : FileWork Location := do
  if name.toList.contains '\x00' then throw .illegalPath
  if FileTree.longestName < (stagedName name 0).utf8ByteSize then throw .nameTooLong
  let route : Route := { isAbsolute := true, steps := directory ++ [stagedName name 0] }
  if FileTree.longestRoute < route.text.utf8ByteSize then throw .nameTooLong
  let tree ← get
  match tree.freeName? directory name 0 stagingTries with
  | none => throw (.fileExists name)
  | some staged =>
    let location := directory ++ [staged]
    set (tree.put location (.file content))
    return location

/-- Puts a staged file in the place that a route leads to, its directory known. A directory is
not replaced. -/
def settle (staged directory : Location) (route : Route) (content : String) : FileWork Unit := do
  if FileTree.longestRoute < route.text.utf8ByteSize then throw .nameTooLong
  if route.name == "" || route.name == ".." then throw .busy
  let tree ← get
  let target := directory ++ [route.name]
  match tree.get? target with
  | some .directory => throw .isDirectory
  | _ => set ((tree.remove staged).put target (.file content))

/-- Takes a staged file away and passes a fault on. -/
def discard (staged : Location) (fault : Fault) : FileWork Unit := do
  modify (·.remove staged)
  throw fault

/-- Has a staged content checked and puts it in its place. If that fails it does not stay staged. -/
def finish (check : ContentCheck) (staged directory : Location) (route : Route) (content : String)
    (validate : Bool) : FileWork Unit :=
  tryCatch
    (do
      lift (vet check content validate)
      settle staged directory route content)
    (discard staged)

/-- Writes a content to the place that a route leads to, all or nothing. -/
def write (check : ContentCheck) (route : Route) (content : String) (mode : OutputMode)
    (validate : Bool) : FileWork Unit := do
  lift ((← get).unbarred mode route)
  makeDirectories route.parent
  let directory ← lift ((← get).locate route.parent)
  let staged ← stage directory route.name content
  finish check staged directory route content validate

end FileWork
end SchemaGraph

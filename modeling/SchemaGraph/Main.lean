import SchemaGraph.Command.Run

/-! The command.

The part of the file system that the arguments name is taken in as a file tree, the
command runs on it, and what it changed there is put back: directories are made, and
every file is staged beside its target and moved there. -/

open SchemaGraph

def probe (location : Location) : IO (Option Entry) := do
  let path := Route.text { isAbsolute := true, steps := location }
  try
    let bytes ← IO.FS.readBinFile path
    match String.fromUTF8? bytes with
    | some content => return some (.file content)
    | none => throw (IO.userError s!"{path} holds no text")
  catch fault =>
    match fault with
    | .userError _ => throw fault
    | _ =>
      try
        let _ ← IO.FS.realPath path
        return some .directory
      catch _ => return none

/-- Takes in a location and the directories above it. -/
def takeIn (tree : FileTree) (location : Location) : IO FileTree := do
  let mut tree := tree
  for place in FileTree.above location ++ [location] do
    if (tree.get? place).isNone then
      match ← probe place with
      | some entry => tree := tree.put place entry
      | none => pure ()
  return tree

/-- The tree that the arguments speak of. -/
def takeInArguments (workingDirectory : Location) (arguments : List String) : IO FileTree := do
  let bare : FileTree := { workingDirectory }
  match Arguments.read arguments with
  | .error _ => return bare
  | .ok arguments =>
    let texts := arguments.paths ++ (arguments.value? .config).toList ++
      (arguments.value? .output).toList
    let routes := texts.map fun text => (Route.ofText text).resolve workingDirectory
    (workingDirectory :: routes.map (·.steps)).foldlM takeIn bare

def putBack (location : Location) (entry : Entry) : IO Unit := do
  let path (location : Location) := Route.text { isAbsolute := true, steps := location }
  match entry with
  | .directory => IO.FS.createDirAll (path location)
  | .file content =>
    let staged := location.dropLast ++ [stagedName (location.getLast?.getD "") 0]
    IO.FS.writeFile (path staged) content
    IO.FS.rename (path staged) (path location)

def main (arguments : List String) : IO UInt32 := do
  let here := Route.ofText (← IO.currentDir).toString
  let tree ← takeInArguments here.steps arguments
  let (outcome, after) := Command.run arguments tree
  for (location, entry) in after.entries do
    if tree.get? location != some entry then putBack location entry
  IO.eprint (Command.log arguments outcome)
  IO.print outcome.output
  IO.eprint outcome.errors
  match outcome.fault? with
  | some fault => IO.eprintln fault.message
  | none => pure ()
  return outcome.exitCode.toUInt32

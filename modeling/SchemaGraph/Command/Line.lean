import SchemaGraph.Files.Tree
import SchemaGraph.Json.Display

/-! The command line of a run, told from its parameters.

`commandLine` writes down what a run was asked to do: the name of the program, the
paths and then the options in a fixed order. Parameters that say nothing are left
out. A path to something that exists is cut down to its name. -/
namespace SchemaGraph.Command

/-- The name that the program goes by in what it generates. -/
def programName : String := "json_schema_to_graphql"

/-- A value of a parameter in the command line. -/
def word (tree : FileTree) : Json → Except Fault String
  | .str text => do
    let route := Route.ofText text
    match ← tree.find? route with
    | some _ => return route.name
    | none => return text
  | value => .ok value.display

/-- The paths, given as an array or as a single one. -/
def pathWords (tree : FileTree) (paths : Json) : Except Fault (List String) :=
  if !paths.truthy then .ok []
  else match paths with
    | .arr items => items.mapM (word tree)
    | item => return [← word tree item]

def valueWords (tree : FileTree) (name : String) (value : Json) : Except Fault (List String) :=
  if !value.truthy then .ok [] else return [name, ← word tree value]

def flagWords (name : String) (value : Json) : List String :=
  if value.truthy then [name] else []

def commandLine (tree : FileTree) (parameters : Json) : Except Fault String := do
  let paths ← pathWords tree (parameters.member "paths")
  let config ← valueWords tree "--config" (parameters.member "config")
  let output ← valueWords tree "--output" (parameters.member "output")
  let flags := flagWords "--force" (parameters.member "force") ++
    flagWords "--strict" (parameters.member "strict") ++
    flagWords "--verbose" (parameters.member "verbose")
  return " ".intercalate (programName :: paths ++ config ++ output ++ flags)

end SchemaGraph.Command

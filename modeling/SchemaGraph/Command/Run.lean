import SchemaGraph.Command.Arguments
import SchemaGraph.Command.Line
import SchemaGraph.Convert
import SchemaGraph.Files.Writing
import SchemaGraph.Sdl.Printer

/-! Running the command.

The command converts the documents in files, given in the order in which they
depend on each other, and writes the schema to its output or to a file. `run` takes
arguments and a file tree to what is shown and the tree afterwards. Arguments that
make no sense end the run before anything is read. Documents that cannot be
converted and a file that cannot be written are reported and end the run with exit
code one; any other fault ends it unreported (`Outcome.fault?`). What was done on the
way is logged (`log`). -/
namespace SchemaGraph.Command

/-! ### Texts -/

def name : String := "json-schema-to-graphql"

def usage : String := s!"Usage: {name} [OPTIONS] PATHS...\n"

def help : String :=
  usage ++ "\n" ++
  "  Convert JSON Schema files (in dependency order) to GraphQL SDL.\n\n" ++
  "Options:\n" ++
  "  -c, --config PATH\n" ++
  "  -o, --output PATH  Write SDL here instead of stdout\n" ++
  "  --force            Overwrite the output file if it exists\n" ++
  "  --strict           Fail on documents that are not valid JSON Schema\n" ++
  "  -v, --verbose\n" ++
  "  --help             Show this message and exit.\n"

def errorLine (message : String) : String := s!"Error: {message}\n"

def usageReport (fault : UsageFault) : String :=
  let hint := if fault.showsUsage then usage ++ s!"Try '{name} --help' for help.\n\n" else ""
  hint ++ errorLine fault.message

/-! ### Outcomes -/

structure Outcome where
  exitCode : Nat := 0
  output : String := ""
  errors : String := ""
  /-- The fault that ended the run without being reported. -/
  fault? : Option Fault := none
  journal : List Event := []

namespace Outcome

def ofUsageFault (fault : UsageFault) : Outcome :=
  { exitCode := 2, errors := usageReport fault }

def ofReported (fault : Fault) (journal : List Event) : Outcome :=
  { exitCode := 1, errors := Text.withoutHalves (errorLine fault.message), journal }

def ofUnreported (fault : Fault) (journal : List Event) : Outcome :=
  { exitCode := 1, fault? := some fault, journal }

end Outcome

/-! ### Parameters -/

/-- What a run works with. All routes are absolute. -/
structure Parameters where
  paths : List Route
  config? : Option Route
  output? : Option Route
  force : Bool
  strict : Bool
  verbose : Bool

namespace Parameters

def toJson (parameters : Parameters) : Json :=
  let route? (route? : Option Route) : Json :=
    match route? with
    | some route => .str route.text
    | none => .null
  .obj [("paths", .arr (parameters.paths.map fun route => .str route.text)),
    ("config", route? parameters.config?), ("output", route? parameters.output?),
    ("force", .bool parameters.force), ("strict", .bool parameters.strict),
    ("verbose", .bool parameters.verbose)]

end Parameters

inductive Refusal where
  | usage (fault : UsageFault)
  | fault (fault : Fault)

def routeOf (tree : FileTree) (text : String) : Except Refusal Route :=
  let route := Route.ofText text
  if route.isIllegal then .error (.fault .illegalPath)
  else .ok (route.resolve tree.workingDirectory)

/-- The route that an argument names, where something must be. -/
def existing (tree : FileTree) (parameter : PathParameter) (text : String) :
    Except Refusal Route := do
  let route ← routeOf tree text
  match tree.find? route with
  | .ok (some _) => return route
  | _ => throw (.usage (.noSuchPath parameter text))

/-- The route that an option names, if it is one that names a route. -/
def optionRoute? (tree : FileTree) (flag : Flag) (text : String) :
    Except Refusal (Option Route) :=
  match flag with
  | .config => some <$> existing tree .config text
  | .output => some <$> routeOf tree text
  | _ => .ok none

/-- The parameters that arguments give: options first, in their order, then the paths, of
which there must be one. -/
def parametersOf (tree : FileTree) (arguments : Arguments) : Except Refusal Parameters := do
  let routes ← arguments.flags.mapM fun flag => do
    return (flag, ← optionRoute? tree flag ((arguments.value? flag).getD ""))
  let route? (flag : Flag) := (routes.lookup flag).join
  if arguments.paths.isEmpty then throw (.usage .missingPaths)
  let paths ← arguments.paths.mapM (existing tree .paths)
  return {
    paths, config? := route? .config, output? := route? .output
    force := arguments.has .force, strict := arguments.has .strict
    verbose := arguments.has .verbose }

/-! ### Work -/

def load (tree : FileTree) (route : Route) : Except Fault Json := do
  let content ← tree.read route
  (Json.read (String.ofList (Text.withLineFeeds content.toList))).mapError .ofText

/-- The settings of a run: those in the configuration file, with options on top. -/
def configOf (tree : FileTree) (parameters : Parameters) : Except Fault Config := do
  let config ← match parameters.config? with
    | some route => Config.ofObject (← load tree route)
    | none => pure {}
  return {
    config with
    checkMode := if parameters.strict then .error else config.checkMode
    outputMode := if parameters.force then .force else config.outputMode }

/-- The schema document, below a comment on how it was made unless that is turned off. -/
def documentFor (tree : FileTree) (parameters : Parameters) (config : Config)
    (schema : Schema) : Except Fault String := do
  if config.addComment.truthy then
    let line ← commandLine tree parameters.toJson
    Sdl.document schema (.str s!"Generated by {line}")
  else Sdl.document schema .null

/-- A document cannot be converted. -/
def isConversionFault : Fault → Bool
  | .missingIdentifier => true
  | .duplicateIdentifier _ => true
  | .unresolvedReference _ _ => true
  | .unsupportedEnum _ => true
  | .unknownType _ _ => true
  | .missingItems _ => true
  | .propertyClash _ _ _ _ => true
  | .valueClash _ _ _ _ => true
  | .queryFieldClash _ _ => true
  | .invalidDocument _ _ => true
  | .invalidGraph _ => true
  | _ => false

/-- A file cannot be written because of what is there, or because of its content. -/
def isWriteFault : Fault → Bool
  | .outputExists _ => true
  | .fileExists _ => true
  | .invalidSdl _ => true
  | .refused _ => true
  | _ => false

def deliver (parameters : Parameters) (config : Config) (document : String)
    (journal : List Event) (tree : FileTree) : Outcome × FileTree :=
  match parameters.output? with
  | none =>
    (if Text.hasHalves document then .ofUnreported .unencodable journal
      else { output := document, journal }, tree)
  | some route =>
    match (FileWork.write schemaCheck route document config.outputMode true).on tree with
    | (.ok (), after) => ({ journal }, after)
    | (.error fault, after) =>
      (if isWriteFault fault then .ofReported fault journal else .ofUnreported fault journal,
        after)

def convert (parameters : Parameters) (tree : FileTree) : Outcome × FileTree :=
  let input : Except Fault (Config × List Json) := do
    let config ← configOf tree parameters
    return (config, ← parameters.paths.mapM (load tree))
  match input with
  | .error fault => (.ofUnreported fault [], tree)
  | .ok (config, values) =>
    let (result, registry) := (Build.convert config none .default [] (.arr values)).on .empty
    let journal := registry.journal
    match result with
    | .error fault =>
      (if isConversionFault fault then .ofReported fault journal else .ofUnreported fault journal,
        tree)
    | .ok schema =>
      match documentFor tree parameters config schema with
      | .error fault => (.ofUnreported fault journal, tree)
      | .ok document => deliver parameters config document journal tree

def run (arguments : List String) (tree : FileTree) : Outcome × FileTree :=
  match Arguments.read arguments with
  | .error fault => (.ofUsageFault fault, tree)
  | .ok arguments =>
    if arguments.has .help then ({ output := help }, tree)
    else match parametersOf tree arguments with
      | .error (.usage fault) => (.ofUsageFault fault, tree)
      | .error (.fault fault) => (.ofUnreported fault [], tree)
      | .ok parameters => convert parameters tree

/-! ### Log -/

/-- The line for an event in the log of a run. Warnings are always logged. -/
def logLine? (verbose : Bool) (event : Event) : Option String :=
  match event.log? with
  | some (level, message) =>
    if verbose || level == .warning then
      some s!"{level.word} json_schema_to_graphql.pipeline.{event.logger}: {message}\n"
    else none
  | none => none

/-- What is logged of a run with these arguments, before its errors are shown. -/
def log (arguments : List String) (outcome : Outcome) : String :=
  let verbose := match Arguments.read arguments with
    | .ok arguments => arguments.has .verbose
    | .error _ => false
  Text.withoutHalves (String.join (outcome.journal.filterMap (logLine? verbose)))

end SchemaGraph.Command

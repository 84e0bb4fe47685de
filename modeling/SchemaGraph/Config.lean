import SchemaGraph.Fault

/-! Settings.

A configuration holds eight settings. Six of them are kept as they are given,
whatever their kind, and only two are checked: the mode of the meta-schema check
and the mode of writing take one of a few words. `Config.ofObject` reads a
configuration file, passing over the keys it does not know; `Config.ofSettings`
takes settings by name and refuses unknown ones.

A file can also replace all settings at once, under a key of its own. What the new
settings lack is then at its default, but for the excluded identifiers: those have
no default to fall back on, and asking for them fails (`Config.excluded`). -/
namespace SchemaGraph

/-- What to do with a document that its meta-schema rejects. -/
inductive CheckMode where
  | off
  | warn
  | error
  deriving Repr, DecidableEq

/-- What to do with an output file that exists already. -/
inductive OutputMode where
  | error
  | force
  deriving Repr, DecidableEq

namespace CheckMode

def word : CheckMode → String
  | off => "off"
  | warn => "warn"
  | error => "error"

def ofJson : Json → Except Fault CheckMode
  | .str "off" => .ok off
  | .str "warn" => .ok warn
  | .str "error" => .ok error
  | value => .error (.badMode .metaSchema value)

theorem ofJson_word (mode : CheckMode) : ofJson (.str mode.word) = .ok mode := by
  cases mode <;> rfl

end CheckMode

namespace OutputMode

def word : OutputMode → String
  | error => "error"
  | force => "force"

def ofJson : Json → Except Fault OutputMode
  | .str "error" => .ok error
  | .str "force" => .ok force
  | value => .error (.badMode .output value)

theorem ofJson_word (mode : OutputMode) : ofJson (.str mode.word) = .ok mode := by
  cases mode <;> rfl

end OutputMode

structure Config where
  /-- What to do with a document that its meta-schema rejects. -/
  checkMode : CheckMode := .warn
  /-- Let a later document take the place of an earlier one of its identifier. -/
  allowDuplicates : Json := .bool false
  /-- Validate the assembled graph. -/
  validateOutput : Json := .bool true
  /-- The name of the default query type. -/
  queryName : Json := .str "Query"
  /-- The placeholder field of an object without properties. -/
  emptyField : Json := .str "_empty"
  /-- Head the output with a comment on how it was made. -/
  addComment : Json := .bool true
  outputMode : OutputMode := .error
  /-- The identifiers that get no default query field, unless they were taken away. -/
  exclude? : Option Json := some (.arr [])
  /-- A key has taken the place of the report on the settings. -/
  reportHidden : Bool := false
  deriving Repr

namespace Config

def settingNames : List String :=
  ["meta_schema_validation", "allow_duplicate_ids", "validate_output", "query_type_name",
    "empty_field_name", "add_generation_comment", "output_mode", "exclude_from_query"]

/-- The settings as they stand in a configuration, the others at their defaults. -/
def read (given : Json) : Except Fault Config := do
  let defaults : Config := {}
  let setting (name : String) (default : Json) : Json := (given.member? name).getD default
  let checkMode ← CheckMode.ofJson (setting "meta_schema_validation" (.str defaults.checkMode.word))
  let outputMode ← OutputMode.ofJson (setting "output_mode" (.str defaults.outputMode.word))
  return {
    checkMode, outputMode
    allowDuplicates := setting "allow_duplicate_ids" defaults.allowDuplicates
    validateOutput := setting "validate_output" defaults.validateOutput
    queryName := setting "query_type_name" defaults.queryName
    emptyField := setting "empty_field_name" defaults.emptyField
    addComment := setting "add_generation_comment" defaults.addComment
    exclude? := given.member? "exclude_from_query"
    reportHidden := (given.member? "to_dict").isSome }

/-- The settings that have no default but the one they start with. -/
def initial : List (String × Json) := [("exclude_from_query", .arr [])]

/-- A key stands for something among the settings `held`: it is one of them, it has a
default, or it is the report. -/
def isKnown (held : List (String × Json)) (key : String) : Bool :=
  (held.lookup key).isSome || key == "to_dict" ||
    (settingNames.contains key && (initial.lookup key).isNone)

/-- The settings `held` after another key of a file. One key replaces them all, and two
others cannot be given. -/
def hold (held : List (String × Json)) : String × Json → Except Fault (List (String × Json))
  | ("__class__", _) => .error (.wrongKind .properties)
  | ("__weakref__", _) => .error (.wrongKind .object)
  | ("__dict__", .obj members) => .ok members
  | ("__dict__", _) => .error (.wrongKind .properties)
  | (key, value) => .ok (if isKnown held key then (key, value) :: held else held)

/-- The configuration that a file's value gives. -/
def ofObject (given : Json) : Except Fault Config :=
  match given with
  | .obj members => do read (.obj (← members.foldlM hold initial))
  | _ => .error (.wrongKind .object)

/-- The configuration made of named settings, all of which must be known. -/
def ofSettings (given : Json) : Except Fault Config :=
  match given with
  | .obj members =>
    if members.all fun (name, _) => settingNames.contains name then
      read (.obj (members ++ initial))
    else .error (.wrongKind .properties)
  | _ => .error (.wrongKind .properties)

/-- The identifiers that get no default query field. -/
def excluded (config : Config) : Except Fault Json :=
  match config.exclude? with
  | some exclude => .ok exclude
  | none => .error (.wrongKind .object)

/-- The settings as an object, with the excluded identifiers as given. -/
def toMembers (config : Config) (exclude : Json) : List (String × Json) :=
  [("meta_schema_validation", .str config.checkMode.word),
    ("allow_duplicate_ids", config.allowDuplicates),
    ("validate_output", config.validateOutput),
    ("query_type_name", config.queryName),
    ("empty_field_name", config.emptyField),
    ("add_generation_comment", config.addComment),
    ("output_mode", .str config.outputMode.word),
    ("exclude_from_query", exclude)]

def report (config : Config) : Except Fault Json := do
  if config.reportHidden then .error (.wrongKind .report)
  else return .obj (config.toMembers (← config.excluded))

end Config
end SchemaGraph

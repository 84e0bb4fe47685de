import SchemaGraph.Fault
import SchemaGraph.Json.Order
import SchemaGraph.MetaSchema.Pattern

/-! The rules of a meta-schema.

A meta-schema says of each keyword what its value may be. The rules form a small
language (`Rule`), and `schema` stands for the meta-schema itself, so that rules
can speak of schemas inside schemas. `check` goes through the rules in order and
gives what it finds, and the first finding is the one that counts (`first?`). Only
where a rule has alternatives are all findings of an alternative looked at
(`passes`). Schemas are met only in the members of other schemas, so the check ends
with the document. -/
namespace SchemaGraph.MetaSchema

inductive Kind where
  | array
  | boolean
  | integer
  | null
  | number
  | object
  | string
  deriving Repr, DecidableEq

namespace Kind

def word : Kind → String
  | array => "array"
  | boolean => "boolean"
  | integer => "integer"
  | null => "null"
  | number => "number"
  | object => "object"
  | string => "string"

/-- A value of the kind. Truth values are no numbers; `wholeFloats` says whether a floating
point number can be an integer. -/
def holds (wholeFloats : Bool) : Kind → Json → Bool
  | array, .arr _ => true
  | boolean, .bool _ => true
  | integer, .int _ => true
  | integer, .float x => wholeFloats && x.isWhole
  | null, .null => true
  | number, .int _ => true
  | number, .float _ => true
  | object, .obj _ => true
  | string, .str _ => true
  | _, _ => false

end Kind

/-- One of the things that a rule on types allows. -/
inductive Choice where
  | kind (kind : Kind)
  | schema
  deriving Repr, DecidableEq

/-- What the value of a keyword may be. Rules about one kind of value pass all others. -/
inductive Rule where
  /-- One of some kinds, or a schema. -/
  | typed (choices : List Choice)
  /-- One of some words. -/
  | words (allowed : List String)
  /-- A number that is not negative. -/
  | atLeastZero
  /-- A number that is positive. -/
  | aboveZero
  /-- An array with items. -/
  | nonEmpty
  /-- An array without equal items. -/
  | distinct
  /-- A text that is a regular expression. -/
  | regex
  /-- A text that fits a regular expression. -/
  | fits (pattern : String) (test : List Char → Bool)
  /-- The names of an object's members, by a rule about texts. -/
  | names (rule : Rule)
  | items (rule : Rule)
  | members (rule : Rule)
  | all (rules : List Rule)
  | either (rules : List Rule)
  | schema

namespace Rule

def any : Rule := all []

end Rule

/-- A meta-schema. -/
structure Draft where
  /-- The kinds of value that a schema can be. -/
  kinds : List Kind
  /-- The keywords, in the order in which they are checked. -/
  keywords : List (String × Rule)
  /-- Keywords that need others beside them. -/
  needs : List (String × String) := []
  /-- A floating point number can be an integer. -/
  wholeFloats : Bool := true

/-! ### Problems -/

/-- What a check comes upon: a problem, or a fault at which it cannot go on. -/
abbrev Finding := Except Fault String

/-- The first problem found, if there is one. -/
abbrev Verdict := Except Fault (Option String)

def first? : List Finding → Verdict
  | [] => .ok none
  | finding :: _ => some <$> finding

/-- Nothing is found. All findings are gone through, so a fault among them ends the check even
behind a problem. -/
def passes (findings : List Finding) : Except Fault Bool := do
  let problems ← findings.mapM id
  return problems.isEmpty

/-- What is found by a rule with alternatives, of which one may have passed. -/
def unlessPassed (passed : Except Fault Bool) (problem : String) : List Finding :=
  match passed with
  | .ok true => []
  | .ok false => [.ok problem]
  | .error fault => [.error fault]

def reportIf (isBad : Bool) (problem : String) : List Finding :=
  if isBad then [.ok problem] else []

namespace Choice

def text : Choice → String
  | .kind one => Text.quoted one.word
  | .schema => (Json.obj [("$ref", .str "#")]).written

end Choice

def notOfType (value : Json) (choices : List Choice) : String :=
  s!"{value.written} is not of type " ++ ", ".intercalate (choices.map Choice.text)

def repeatsAnywhere : List Json → Bool
  | [] => false
  | item :: rest => rest.any (item.alike ·) || repeatsAnywhere rest

/-- The order in which items are looked at. Truth values have none. -/
def itemBefore? (a b : Json) : Option Bool :=
  if a.isBool || b.isBool then none else a.before? b

/-- An array in which an item comes back. Items that can be put in order are compared with
their neighbours alone, and truth values inside them count as numbers in that order. So
an item goes unnoticed that comes back beyond one that is as large and not alike. -/
def repeats (items : List Json) : Bool :=
  match Json.sorted? itemBefore? items with
  | some sorted => (sorted.zip sorted.tail).any fun (item, next) => item.alike next
  | none => repeatsAnywhere items

namespace Rule

/-- What is wrong with a value by a rule that does not look into it. -/
def shallow (rule : Rule) (value : Json) : List Finding :=
  match rule, value with
  | words allowed, _ =>
    reportIf (!allowed.any fun word => value.alike (.str word))
      s!"{value.written} is not one of {(Json.arr (allowed.map .str)).written}"
  | atLeastZero, .int n => reportIf (n < 0) s!"{value.written} is less than the minimum of 0"
  | atLeastZero, .float x =>
    reportIf (x.ltInt 0) s!"{value.written} is less than the minimum of 0"
  | aboveZero, .int n =>
    reportIf (n ≤ 0) s!"{value.written} is less than or equal to the minimum of 0"
  | aboveZero, .float x =>
    reportIf (x.ltInt 0 || x.isZero)
      s!"{value.written} is less than or equal to the minimum of 0"
  | nonEmpty, .arr [] => [.ok s!"{value.written} should be non-empty"]
  | distinct, .arr values =>
    reportIf (repeats values) s!"{value.written} has non-unique elements"
  | regex, .str text =>
    match Pattern.check text with
    | .ok () => []
    | .error .malformed => [.ok s!"{value.written} is not a 'regex'"]
    | .error flaw => [.error (.unreadablePattern flaw)]
  | fits pattern test, .str text =>
    reportIf (!test text.toList) s!"{value.written} does not match {Text.quoted pattern}"
  | _, _ => []

end Rule

/-- The first keyword that lacks one it needs. -/
def missingNeed? (needs : List (String × String)) (value : Json) : Option String :=
  needs.findSome? fun (keyword, need) =>
    if (value.member? keyword).isSome && (value.member? need).isNone then
      some s!"{Text.quoted need} is a dependency of {Text.quoted keyword}"
    else none

mutual

/-- What is wrong with a value by a rule of the draft, in the order in which it is found. -/
def check (draft : Draft) (rule : Rule) (value : Json) : List Finding :=
  match rule with
  | .schema =>
    have := Json.size_pos value
    if draft.kinds.any (·.holds draft.wholeFloats value) then
      checkKeywords draft draft.keywords value ++
        (missingNeed? draft.needs value).toList.map .ok
    else [.ok (notOfType value (draft.kinds.map .kind))]
  | .typed choices =>
    have : 0 < sizeOf choices := by
      cases choices <;> simp only [List.nil.sizeOf_spec, List.cons.sizeOf_spec] <;> omega
    if choices.any fun choice => match choice with
        | .kind kind => kind.holds draft.wholeFloats value
        | .schema => false then []
    else
      unlessPassed
        (if choices.contains .schema then passes (check draft .schema value) else .ok false)
        (notOfType value choices)
  | .names rule =>
    match value with
    | .obj members => members.flatMap fun (name, _) => rule.shallow (.str name)
    | _ => []
  | .items rule =>
    match value with
    | .arr items =>
      have := Json.size_arr items
      checkItems draft rule items
    | _ => []
  | .members rule =>
    match value with
    | .obj members =>
      have := Json.size_obj members
      checkMembers draft rule members
    | _ => []
  | .all rules => checkAll draft rules value
  | .either rules =>
    unlessPassed (passesAny draft rules value)
      s!"{value.written} is not valid under any of the given schemas"
  | rule => rule.shallow value
termination_by (2 * value.size, sizeOf rule)

/-- What is wrong with the keywords of a schema. -/
def checkKeywords (draft : Draft) (keywords : List (String × Rule)) (schema : Json) :
    List Finding :=
  match keywords with
  | [] => []
  | (keyword, rule) :: rest =>
    match hmember : schema.member? keyword with
    | none => checkKeywords draft rest schema
    | some value =>
      have := Json.size_member?_lt hmember
      check draft rule value ++ checkKeywords draft rest schema
termination_by (2 * schema.size - 1, sizeOf keywords)

def checkItems (draft : Draft) (rule : Rule) (items : List Json) : List Finding :=
  match items with
  | [] => []
  | item :: rest =>
    have := Json.size_pos item
    have := Json.sizeItems_cons item rest
    check draft rule item ++ checkItems draft rule rest
termination_by (2 * Json.sizeItems items + 1, 0)

def checkMembers (draft : Draft) (rule : Rule) (members : List (String × Json)) : List Finding :=
  match members with
  | [] => []
  | (name, value) :: rest =>
    have := Json.size_pos value
    have := Json.sizeMembers_cons name value rest
    check draft rule value ++ checkMembers draft rule rest
termination_by (2 * Json.sizeMembers members + 1, 0)

def checkAll (draft : Draft) (rules : List Rule) (value : Json) : List Finding :=
  match rules with
  | [] => []
  | rule :: rest => check draft rule value ++ checkAll draft rest value
termination_by (2 * value.size, sizeOf rules)

/-- One of some rules passes. Those behind it are not looked at. -/
def passesAny (draft : Draft) (rules : List Rule) (value : Json) : Except Fault Bool :=
  match rules with
  | [] => return false
  | rule :: rest => do
    if ← passes (check draft rule value) then return true
    passesAny draft rest value
termination_by (2 * value.size, sizeOf rules)

end

end SchemaGraph.MetaSchema

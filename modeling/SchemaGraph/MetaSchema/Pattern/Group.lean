import SchemaGraph.MetaSchema.Pattern.Scan
import SchemaGraph.Text.Identifier
import SchemaGraph.Text.Integer

/-! Groups, flags and repetition.

Behind an opening parenthesis a question mark tells what a group is for: a name, flags,
a look around, a condition on another group, or no group at all. A mark behind an item
tells how often it is repeated. -/
namespace SchemaGraph.Pattern

/-! ### Repetition -/

/-- A count in braces, if there is one. -/
def count? (digits : List Char) : Reader (Option Nat) := do
  if digits.isEmpty then return none
  if Text.mostDigits < digits.length then throw .tooLong
  let count := number 10 digits
  if unbounded ≤ count then throw .tooLarge
  return some count

/-- The bounds in braces, or none if the brace stands for itself. -/
def bounds? : Reader (Option (Nat × Nat)) := do
  let scan ← get
  if ← isNext '\x7d' then return none
  let low ← digits
  let high ← if ← accept ',' then digits else pure low
  if !(← accept '\x7d') then
    set scan
    return none
  let least := (← count? low).getD 0
  match ← count? high with
  | none => return some (least, unbounded)
  | some most => if most < least then fail else return some (least, most)

def repetition? (mark : Char) : Reader (Option (Nat × Nat)) :=
  if mark == '?' then return some (0, 1)
  else if mark == '*' then return some (0, unbounded)
  else if mark == '+' then return some (1, unbounded)
  else if mark == '\x7b' then bounds?
  else return none

/-! ### Flags -/

def flagLetters : List Char := ['i', 'L', 'm', 's', 'x', 'a', 't', 'u']

/-- Flags on the kind of text. -/
def kindFlags : List Char := ['a', 'L', 'u']

/-- The flags that follow up to one of `ends`, which is returned too. Each must be known. -/
def flagsUpTo (ends : List Char) (first : Token) : Reader (List Char × Token) := do
  let more ← take (← get).rest.length (!ends.contains ·)
  let letters := first.text ++ more
  if letters.all flagLetters.contains then return (letters, ← next) else fail

/-- Flags for the whole pattern or for one group. -/
inductive FlagScope where
  | pattern
  | group
  deriving DecidableEq

/-- Flags behind a question mark: the ones turned on, the ones turned off, and their scope. -/
def readFlags (first : Token) : Reader (List Char × List Char × FlagScope) := do
  let (on, mark) ← if first == .char '-' then pure ([], first)
    else flagsUpTo [')', '-', ':'] first
  let kinds := (kindFlags.filter on.contains).length
  if on.contains 'L' || 1 < kinds then fail
  if mark == .char ')' then return (on, [], .pattern)
  if on.contains 't' then fail
  if mark == .char ':' then return (on, [], .group)
  if mark != .char '-' then fail
  let (off, mark) ← flagsUpTo [':'] (← next)
  if mark != .char ':' then fail
  if off.any fun flag => kindFlags.contains flag || flag == 't' || on.contains flag then fail
  return (on, off, .group)

/-! ### Groups -/

inductive GroupKind where
  | capture (name? : Option (List Char))
  | plain (on off : List Char)
  | lookAhead
  | lookBehind
  | condition
  /-- Nothing is left to read: a comment, a reference, or flags for the whole pattern. -/
  | done (item? : Option Width)

/-- The name of a group, up to `mark`. -/
def groupName (mark : Char) : Reader (List Char) := do
  let name ← upTo mark
  if Text.isIdentifier name then return name else fail

/-- What the letter `P` behind a question mark is for: a name, or a reference by name. -/
def namedKind : Reader GroupKind := do
  if ← accept '<' then return .capture (some (← groupName '>'))
  else if ← accept '=' then return .done (some (← reference (← named (← groupName ')'))))
  else fail

/-- What stands behind an opening parenthesis. Flags for the whole pattern may stand only
where `atStart` says so. -/
def groupKind (atStart : Bool) : Reader GroupKind := do
  if !(← accept '?') then return .capture none
  match ← next with
  | .char c =>
    if c == 'P' then namedKind
    else if c == ':' || c == '>' then return .plain [] []
    else if c == '#' then
      let _ ← through ')'
      return .done none
    else if c == '=' || c == '!' then return .lookAhead
    else if c == '<' then
      if (← accept '=') || (← accept '!') then return .lookBehind else fail
    else if c == '(' then return .condition
    else if flagLetters.contains c || c == '-' then
      match ← readFlags (.char c) with
      | (on, off, .group) => return .plain on off
      | (on, _, .pattern) =>
        if !atStart then fail
        modify fun scan => { scan with flags := scan.flags ++ on }
        return .done none
    else fail
  | _ => fail

def openGroup (name? : Option (List Char)) : Reader Nat := do
  let scan ← get
  match name? with
  | none =>
    set { scan with groups := scan.groups + 1 }
    return scan.groups
  | some name =>
    if (scan.names.lookup name).isSome then fail
    set { scan with groups := scan.groups + 1, names := (name, scan.groups) :: scan.names }
    return scan.groups

/-- Closes a group that matches texts of some width. -/
def closeGroup (group : Nat) (width : Width) : Reader Unit := do
  expect ')'
  modify fun scan => { scan with closed := (group, width) :: scan.closed }

/-- No pattern has as many groups. -/
def groupLimit : Nat := 1073741823

/-- The group that a condition names by number. It may come later. -/
def numbered (text : List Char) : Reader Nat := do
  match Text.integer? text with
  | some (.ofNat group) =>
    if group == 0 || groupLimit ≤ group then fail
    modify fun scan => { scan with conditions := group :: scan.conditions }
    return group
  | _ => fail

/-- The group that a condition asks about. -/
def conditionGroup : Reader Unit := do
  let text ← upTo ')'
  let group ← if Text.isIdentifier text then named text else numbered text
  if (← get).behind?.isSome then
    let _ ← reference group

end SchemaGraph.Pattern

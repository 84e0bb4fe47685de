import SchemaGraph.MetaSchema.Pattern.Escape
import SchemaGraph.MetaSchema.Pattern.Group

/-! Regular expressions in schemas.

A meta-schema asks whether a text is a regular expression at all; nothing is ever
matched. `Pattern.check` reads a text as a pattern of the usual kind: alternatives,
sequences, character sets, greedy, lazy and possessive repetition, groups with and
without names, flags, look-around, back references and conditions. What concerns the
pattern as a whole is checked when all of it is read. -/
namespace SchemaGraph.Pattern

/-! ### Sequences and alternatives -/

/-- What follows a comment up to the end of its line. -/
def lineComment : List Token → List Token
  | [] => []
  | [.cut] => [.cut]
  | token :: rest => if token == .char '\n' then rest else lineComment rest

def isSpace (c : Char) : Bool := [' ', '\t', '\n', '\r', '\u000b', '\u000c'].contains c

/-- What is being read: alternatives, or the rest of one of them. -/
inductive Part where
  | alternatives (isFirst : Bool)
  | sequence (isFirst : Bool) (last : Last) (lastWidth width : Width)

/-- Whether blanks and comments count for nothing from here on: at the top, a flag for the
whole pattern decides. -/
def isVerbose (top verbose : Bool) : Reader Bool := do
  if top then return (← get).flags.contains 'x' else return verbose

/-- The width of a part. `top` tells the whole pattern from the inside of a group, and
`verbose` whether blanks and comments count for nothing. -/
def part (fuel : Nat) (top verbose : Bool) (goal : Part) : Reader Width := do
  match fuel with
  | 0 => fail
  | fuel + 1 =>
    match goal with
    | .alternatives isFirst =>
      let width ← part fuel top verbose (.sequence (top && isFirst) .nothing {} {})
      if ← accept '|' then
        let verbose ← isVerbose top verbose
        return width.either (← part fuel top verbose (.alternatives false))
      else return width
    | .sequence isFirst last lastWidth width =>
      let total := width.append lastWidth
      let add (last : Last) (item : Width) : Reader Width :=
        part fuel top verbose (.sequence isFirst last item total)
      match (← get).rest with
      | [] => return total
      | .char '|' :: _ => return total
      | .char ')' :: _ => return total
      | .cut :: _ => fail
      | .escaped c :: rest =>
        moveTo rest
        let (kind, item) ← escape c
        add kind item
      | .char c :: rest =>
        moveTo rest
        if verbose && isSpace c then part fuel top verbose goal
        else if verbose && c == '#' then
          moveTo (lineComment rest)
          part fuel top verbose goal
        else if c == '[' then
          let _ ← accept '^'
          setRest (rest.length + 1) true
          add .item .char
        else if c == '^' || c == '$' then add .anchor {}
        else if c == '(' then
          match ← groupKind (isFirst && last == .nothing) with
          | .done none =>
            let verbose ← isVerbose top verbose
            part fuel top verbose goal
          | .done (some item) => add .item item
          | .capture name? =>
            let group ← openGroup name?
            let item ← part fuel false verbose (.alternatives false)
            closeGroup group item
            add .item item
          | .plain on off =>
            let inner := (verbose || on.contains 'x') && !off.contains 'x'
            let item ← part fuel false inner (.alternatives false)
            expect ')'
            add .item item
          | .lookAhead =>
            let _ ← part fuel false verbose (.alternatives false)
            expect ')'
            add .item {}
          | .lookBehind =>
            let outer := (← get).behind?
            modify fun scan => { scan with behind? := outer.or (some scan.groups) }
            let item ← part fuel false verbose (.alternatives false)
            modify fun scan =>
              { scan with behind? := outer, lookBehinds := item :: scan.lookBehinds }
            expect ')'
            add .item {}
          | .condition =>
            conditionGroup
            let yes ← part fuel false verbose (.sequence false .nothing {} {})
            let item ← if ← accept '|' then do
                let no ← part fuel false verbose (.sequence false .nothing {} {})
                if ← isNext '|' then fail
                pure (yes.either no)
              else pure (yes.either {})
            expect ')'
            add .item item
        else
          match ← repetition? c with
          | some (low, high) =>
            if last == .nothing || last == .anchor || last == .repetition then fail
            if !(← accept '?') then
              let _ ← accept '+'
            modify fun scan => { scan with repeats := true }
            part fuel top verbose
              (.sequence isFirst .repetition (lastWidth.repeated low high) width)
          | none => add .item .char

/-! ### Whole patterns -/

def whole : Reader Unit := do
  let tokens := (← get).rest
  moveTo tokens
  let _ ← part (2 * tokens.length + 2) true false (.alternatives true)

/-- The flaw of a pattern that was read up to something that cannot follow, or up to its
end. -/
def Scan.flaw? (scan : Scan) : Option Flaw :=
  if scan.flags.contains 'a' && scan.flags.contains 'u' then some .mixedFlags
  else if !scan.rest.isEmpty || scan.conditions.any (scan.groups ≤ ·) then some .malformed
  else if scan.flags.contains 't' && scan.repeats then some .malformed
  else if !scan.lookBehinds.all (·.isFixed) then some .malformed
  else if scan.lookBehinds.any (·.isFar) then some .tooFarBack
  else none

/-- The first flaw of a text as a pattern. -/
def check (text : String) : Except Flaw Unit := do
  let (_, scan) ← whole.run { rest := Token.ofText text.toList }
  match scan.flaw? with
  | some flaw => throw flaw
  | none => return

end SchemaGraph.Pattern

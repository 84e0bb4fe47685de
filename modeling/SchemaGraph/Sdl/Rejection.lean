import SchemaGraph.Sdl.Annotation
import SchemaGraph.Sdl.Reader
import SchemaGraph.Text.Excerpt

/-! Checking a document.

A document passes if it can be read, what it names fits together, and the directives
that say something of the schema can be read too (`check`). A rejection says what is
wrong: the first fault of syntax, or all problems, or the first misfit. -/
namespace SchemaGraph.Sdl

inductive Rejection where
  | unreadable (fault : SyntaxFault) (text : String)
  | unsound (list : List Problem)
  | misfitting (cause : Misfit) (text : String)
  deriving Repr

namespace Rejection

/-- The number of characters before a token, given the number of tokens before it. -/
def offsetOf (text : String) (index : Nat) : Nat := ((tokens text)[index]?.map Token.offset).getD 0

/-- A message with the place it is about: that of the token behind `index` others. -/
def located (message text : String) (index : Nat) : String :=
  let chars := text.toList
  let place := Text.Place.ofOffset chars (offsetOf text index)
  s!"{message}\n\nGraphQL request:{place.line}:{place.column}\n" ++
    String.ofList (Text.excerpt chars place)

def message : Rejection → String
  | unreadable fault text => located s!"Syntax Error: {fault.problem.message}" text fault.index
  | unsound list => "\n\n".intercalate (list.map Problem.message)
  | misfitting cause text => located cause.message text cause.index

/-- The text ends where no reader can go on. -/
def isCut : Rejection → Bool
  | unreadable fault _ => fault.problem == .misspelling .cutEscape
  | _ => false

end Rejection

def check (text : String) : Except Rejection Unit := do
  let document ← (declarations (lexemes text)).mapError fun fault => .unreadable fault text
  match problems document, (misfits document).head? with
  | [], none => return
  | [], some misfit => throw (.misfitting misfit text)
  | list, _ => throw (.unsound list)

end SchemaGraph.Sdl

/-! Types in use.

A document names a type where it uses it, and may wrap it: in a list, or in an
exclamation mark, which forbids null. -/
namespace SchemaGraph.Sdl

inductive TypeUse where
  | named (name : String)
  | list (item : TypeUse)
  | nonNull (type : TypeUse)
  deriving Repr, DecidableEq

namespace TypeUse

def name : TypeUse → String
  | named name => name
  | list item => item.name
  | nonNull type => type.name

def text : TypeUse → String
  | named name => name
  | list item => s!"[{item.text}]"
  | nonNull type => s!"{type.text}!"

/-- Null is no value of the type. -/
def forbidsNull : TypeUse → Bool
  | nonNull _ => true
  | _ => false

end TypeUse
end SchemaGraph.Sdl

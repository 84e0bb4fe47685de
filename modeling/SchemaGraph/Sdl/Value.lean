import SchemaGraph.Sdl.Description

/-! Values in a document.

A value is written where an argument is given or a default is declared. Numbers keep
their spelling, since nothing is calculated here. `Value.text` writes a value the way
messages show it: on one line, unless a list or an object takes more than eighty
characters, which then has a line for each item. -/
namespace SchemaGraph.Sdl

inductive Value where
  | variableUse (name : String)
  | number (spelling : String)
  | string (text : String)
  /-- A string that is written between triple quotes. -/
  | block (text : String)
  | null
  /-- A truth value or the value of an enum. -/
  | word (name : String)
  | list (items : List Value)
  | object (fields : List (String × Value))
  deriving Repr, Inhabited

namespace Value

/-! ### Text -/

/-- A line with more characters is broken up. -/
def longestLine : Nat := 80

/-- The text with every line set in, unless there is nothing to set in. -/
def indented (text : String) : String :=
  if text.isEmpty then text else "  " ++ text.replace "\n" "\n  "

/-- Lines between an opening and a closing one. -/
def stacked (opening closing : String) (lines : List String) : String :=
  opening ++ "\n" ++ indented ("\n".intercalate lines) ++ "\n" ++ closing

def listText (items : List String) : String :=
  let line := "[" ++ ", ".intercalate items ++ "]"
  if longestLine < line.length then stacked "[" "]" items else line

def objectText (fields : List String) : String :=
  let line := "\x7b " ++ ", ".intercalate fields ++ " \x7d"
  if longestLine < line.length then stacked "\x7b" "\x7d" fields else line

mutual

/-- The value as messages show it. -/
def text : Value → String
  | variableUse name => s!"${name}"
  | number spelling => spelling
  | string text => String.ofList (Sdl.literal text.toList)
  | block text => String.ofList (Sdl.block text.toList)
  | null => "null"
  | word name => name
  | list items => listText (itemTexts items)
  | object fields => objectText (fieldTexts fields)

def itemTexts : List Value → List String
  | [] => []
  | item :: rest => item.text :: itemTexts rest

def fieldTexts : List (String × Value) → List String
  | [] => []
  | (name, value) :: rest => s!"{name}: {value.text}" :: fieldTexts rest

end

end Value
end SchemaGraph.Sdl

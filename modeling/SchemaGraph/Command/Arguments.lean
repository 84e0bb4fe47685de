import SchemaGraph.Text.Quoted
import SchemaGraph.Text.Resemblance

/-! Arguments of the command.

An argument that starts with a dash sets options: a long option by its name, with a
value behind an equals sign or in the next argument, or any number of short options
by their letters, the last of which may have its value directly behind it. Every
other argument is a path, and so is everything behind a double dash. `Arguments.read`
takes arguments in order and stops at the first one that it cannot make sense of. -/
namespace SchemaGraph

inductive Flag where
  | config
  | output
  | force
  | strict
  | verbose
  | help
  deriving Repr, DecidableEq

namespace Flag

def all : List Flag := [config, output, force, strict, verbose, help]

def long : Flag → String
  | config => "--config"
  | output => "--output"
  | force => "--force"
  | strict => "--strict"
  | verbose => "--verbose"
  | help => "--help"

def letter? : Flag → Option Char
  | config => some 'c'
  | output => some 'o'
  | verbose => some 'v'
  | _ => none

def takesValue : Flag → Bool
  | config => true
  | output => true
  | _ => false

def ofLong? (name : String) : Option Flag := all.find? fun flag => flag.long == name

def ofLetter? (c : Char) : Option Flag := all.find? fun flag => flag.letter? == some c

end Flag

/-! ### Usage -/

/-- The parameters that name something that must exist. -/
inductive PathParameter where
  | paths
  | config
  deriving Repr, DecidableEq

namespace PathParameter

def title : PathParameter → String
  | paths => "'PATHS...'"
  | config => "'--config' / '-c'"

end PathParameter

/-- Why arguments make no sense. -/
inductive UsageFault where
  | missingPaths
  | noSuchPath (parameter : PathParameter) (path : String)
  /-- With the options that it may be meant for. -/
  | unknownOption (name : String) (near : List String)
  | valueMissing (name : String)
  | valueNotTaken (name : String)
  deriving Repr, DecidableEq

namespace UsageFault

/-- A question for the option that was meant, if there is anything to suggest. -/
def question (near : List String) : String :=
  match (near.mergeSort fun a b => a ≤ b).map Text.quoted with
  | [] => ""
  | [option] => s!" Did you mean {option}?"
  | options => " (Possible options: " ++ ", ".intercalate options ++ ")"

def message : UsageFault → String
  | missingPaths => s!"Missing argument {PathParameter.paths.title}."
  | noSuchPath parameter path =>
    s!"Invalid value for {parameter.title}: Path {Text.quoted path} does not exist."
  | unknownOption name near => s!"No such option {Text.quoted name}." ++ question near
  | valueMissing name => s!"Option {Text.quoted name} requires an argument."
  | valueNotTaken name => s!"Option {Text.quoted name} does not take a value."

def showsUsage : UsageFault → Bool
  | valueMissing _ => false
  | valueNotTaken _ => false
  | _ => true

end UsageFault

/-! ### Reading -/

/-- What the arguments say: paths, and options with their values, in order. -/
structure Arguments where
  paths : List String := []
  given : List (Flag × String) := []
  deriving Repr, DecidableEq

namespace Arguments

def has (arguments : Arguments) (flag : Flag) : Bool :=
  arguments.given.any fun (other, _) => other == flag

/-- The value of an option; a later one takes an earlier one's place. -/
def value? (arguments : Arguments) (flag : Flag) : Option String :=
  ((arguments.given.filter fun (other, _) => other == flag).getLast?).map (·.2)

/-- The options that are given, in the order in which they come first. -/
def flags (arguments : Arguments) : List Flag := (arguments.given.map (·.1)).eraseDups

end Arguments

inductive Argument where
  | path (text : String)
  /-- Only paths follow. -/
  | pathsFollow
  /-- Options, none of which lacks a value. -/
  | options (given : List (Flag × String))
  /-- Options, and one more, called by `name`, whose value is the next argument. -/
  | valueFollows (given : List (Flag × String)) (flag : Flag) (name : String)
  deriving Repr, DecidableEq

namespace Argument

/-- Short options after others. -/
def ofLetters (given : List (Flag × String)) : List Char → Except UsageFault Argument
  | [] => .ok (.options given)
  | c :: rest =>
    let name := String.ofList ['-', c]
    match Flag.ofLetter? c with
    | none => .error (.unknownOption name [])
    | some flag =>
      if !flag.takesValue then ofLetters (given ++ [(flag, "")]) rest
      else if rest.isEmpty then .ok (.valueFollows given flag name)
      else .ok (.options (given ++ [(flag, String.ofList rest)]))

/-- A long option, with the value behind an equals sign if there is one. -/
def ofLong (flag : Flag) (value? : Option String) : Except UsageFault Argument :=
  match flag.takesValue, value? with
  | true, some value => .ok (.options [(flag, value)])
  | true, none => .ok (.valueFollows [] flag flag.long)
  | false, some _ => .error (.valueNotTaken flag.long)
  | false, none => .ok (.options [(flag, "")])

def ofText (text : String) : Except UsageFault Argument :=
  match text.toList with
  | '-' :: '-' :: [] => .ok .pathsFollow
  | '-' :: c :: rest =>
    let name := String.ofList ((text.toList).takeWhile (· != '='))
    let value? := if text.toList.contains '=' then
      some (String.ofList ((text.toList.dropWhile (· != '=')).drop 1)) else none
    match Flag.ofLong? name with
    | some flag => ofLong flag value?
    | none =>
      if c == '-' then .error (.unknownOption name (Text.alike name (Flag.all.map Flag.long)))
      else ofLetters [] (c :: rest)
  | _ => .ok (.path text)

end Argument

namespace Arguments

def add (arguments : Arguments) (given : List (Flag × String)) : Arguments :=
  { arguments with given := arguments.given ++ given }

/-- What more arguments say. -/
def readFrom (arguments : Arguments) : List String → Except UsageFault Arguments
  | [] => .ok arguments
  | text :: rest =>
    match Argument.ofText text with
    | .error fault => .error fault
    | .ok (.path path) => readFrom { arguments with paths := arguments.paths ++ [path] } rest
    | .ok .pathsFollow => .ok { arguments with paths := arguments.paths ++ rest }
    | .ok (.options given) => readFrom (arguments.add given) rest
    | .ok (.valueFollows given flag name) =>
      match rest with
      | [] => .error (.valueMissing name)
      | value :: rest => readFrom (arguments.add (given ++ [(flag, value)])) rest

def read (texts : List String) : Except UsageFault Arguments := readFrom {} texts

end Arguments
end SchemaGraph

import LineBasic.Config
import LineBasic.Number.Literal

/-!
# Command line arguments

One argument names the program file; options may stand before and behind it.
Arguments are taken in order, and the first one that cannot be accepted refuses
them all. A request for help or the version is answered as soon as it is
reached, whatever follows.
-/

namespace LineBasic.CommandLine

/-- What the arguments say, as far as they have been taken. -/
structure Arguments where
  file : Option String := none
  tabWidth : Option Nat := none
  maxLabels : Option Nat := none
  trace : Bool := false
deriving DecidableEq, Repr

inductive Request where
  | help
  | version
  | run (file : String) (config : Config) (trace : Bool)
deriving DecidableEq, Repr

/-- The whole number that an argument writes: decimal digits, with or without a
plus sign, for a number of 64 bits. -/
def wholeNumber? (text : String) : Option Nat :=
  let digits : List Char := match text.toList with
    | '+' :: rest => rest
    | chars => chars
  let value := Number.ofDigits digits
  if digits ≠ [] ∧ digits.all Char.isDigit ∧ value < Nat.pow 2 64 then some value else none

namespace Arguments

/-- Takes an argument that is not an option. -/
def takeFile (arguments : Arguments) (file : String) : Option Arguments :=
  if arguments.file.isSome ∨ file = "" then none else some { arguments with file := some file }

def takeTabWidth (arguments : Arguments) (value : String) : Option Arguments := do
  if arguments.tabWidth.isSome then none
  return { arguments with tabWidth := some (← wholeNumber? value) }

def takeMaxLabels (arguments : Arguments) (value : String) : Option Arguments := do
  if arguments.maxLabels.isSome then none
  return { arguments with maxLabels := some (← wholeNumber? value) }

def takeTrace (arguments : Arguments) : Option Arguments :=
  if arguments.trace then none else some { arguments with trace := true }

/-- The settings that the arguments describe. -/
def config (arguments : Arguments) : Config :=
  let config := (match arguments.tabWidth with
    | some width => Config.withTabWidth {} width
    | none => {})
  match arguments.maxLabels with
  | some capacity => config.withLabelCapacity capacity
  | none => config

/-- What is asked for when all arguments have been taken. -/
def request? (arguments : Arguments) : Option Request :=
  arguments.file.map fun file => .run file arguments.config arguments.trace

/-- Takes the arguments behind `--`, none of which is an option. -/
def takeFiles (arguments : Arguments) : List String → Option Request
  | [] => arguments.request?
  | file :: rest => do (← arguments.takeFile file).takeFiles rest

/-- Whether an argument is read as an option and not as a value. A single minus
sign is a value. -/
def isOption (argument : String) : Bool :=
  match argument.toList with
  | '-' :: _ :: _ => true
  | _ => false

/-- The name of an option and the value that is attached to it, behind the first
equal sign. -/
def splitValue (argument : String) : String × Option String :=
  let chars := argument.toList
  match chars.dropWhile (· != '=') with
  | _ :: value => (String.ofList (chars.takeWhile (· != '=')), some (String.ofList value))
  | [] => (argument, none)

/-- Takes arguments one after the other. -/
def take (arguments : Arguments) : List String → Option Request
  | [] => arguments.request?
  | argument :: rest =>
    if argument = "--" then arguments.takeFiles rest
    else if argument.startsWith "--" then
      match splitValue argument with
      | ("--help", none) => some .help
      | ("--version", none) => some .version
      | ("--trace", none) => do (← arguments.takeTrace).take rest
      | ("--tab-width", some value) => do (← arguments.takeTabWidth value).take rest
      | ("--max-labels", some value) => do (← arguments.takeMaxLabels value).take rest
      | ("--tab-width", none) =>
        match rest with
        | value :: rest => do
          if isOption value then none
          (← arguments.takeTabWidth value).take rest
        | [] => none
      | ("--max-labels", none) =>
        match rest with
        | value :: rest => do
          if isOption value then none
          (← arguments.takeMaxLabels value).take rest
        | [] => none
      | _ => none
    else if argument.startsWith "-h" then some .help
    else if argument.startsWith "-V" then some .version
    else if isOption argument then none
    else do (← arguments.takeFile argument).take rest

end Arguments

/-- What a list of arguments asks for, unless it is refused. -/
def request? (arguments : List String) : Option Request := Arguments.take {} arguments

end LineBasic.CommandLine

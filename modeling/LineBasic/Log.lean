import LineBasic.Run

/-!
# The log of a run

What is worth reporting about a run, how it is written, and which of it a
setting asks for. Nothing of it is stored in the machine: the events of a step
are read off the machine before and after it.
-/

namespace LineBasic

inductive Event where
  | loaded (path : String) (bytes : Nat)
  | labelsCollected (labels : Nat)
  | started (characters labels : Nat)
  | statement (word : Keyword) (offset : Nat)
  | jumped (source target : Nat)
  | inputRejected (warning : Warning)
  | finished (completion : Completion)
deriving DecidableEq, Repr

/-! ### Levels -/

/-- How much a report matters, the most severe first. -/
inductive Level where
  | error | warn | info | debug | trace
deriving DecidableEq, Repr

namespace Level

def all : List Level := [error, warn, info, debug, trace]

def rank : Level → Nat
  | error => 1
  | warn => 2
  | info => 3
  | debug => 4
  | trace => 5

def name : Level → String
  | error => "ERROR"
  | warn => "WARN"
  | info => "INFO"
  | debug => "DEBUG"
  | trace => "TRACE"

/-- The greatest rank that a word admits: that of a level, by its name in any
case or by its number, or none at all. -/
def ranksOf? (word : String) : Option Nat :=
  if word.toUpper = "OFF" ∨ word = "0" then some 0
  else (all.find? fun level => level.name = word.toUpper ∨ toString level.rank = word).map rank

end Level

/-! ### Events -/

namespace Event

def level : Event → Level
  | inputRejected _ => .warn
  | loaded .. | labelsCollected _ | started .. | finished _ => .debug
  | statement .. | jumped .. => .trace

/-- The part of the program that an event comes from. -/
def target : Event → String
  | loaded .. => "small_basic::filesystem"
  | labelsCollected _ => "small_basic::labels"
  | _ => "small_basic::executor"

def completionName : Completion → String
  | .endOfProgram => "EndOfProgram"
  | .ended => "End"

/-- The fields of a message, each with its name in front. -/
def fields (values : List (String × String)) : String :=
  String.join (values.map fun (name, value) => " " ++ name ++ "=" ++ value)

def message : Event → String
  | loaded path bytes => "loaded program" ++ fields [("path", path), ("chars", toString bytes)]
  | labelsCollected labels => "label table built" ++ fields [("labels", toString labels)]
  | started characters labels =>
    "run started" ++ fields [("chars", toString characters), ("labels", toString labels)]
  | statement word offset =>
    "statement" ++ fields
      [("keyword", word.spelling.toLower.capitalize), ("offset", toString offset)]
  | jumped source target =>
    "jump" ++ fields [("from", toString source), ("to", toString target)]
  | inputRejected warning =>
    "non-numeric INPUT ignored" ++ fields
      [("line", toString warning.line), ("input", warning.input)]
  | finished completion =>
    "run finished" ++ fields [("completion", completionName completion)]

/-- The line of the log that reports an event. -/
def render (event : Event) : String :=
  event.level.name ++ " " ++ event.target ++ ": " ++ event.message ++ "\n"

/-! ### The events of a step -/

/-- The statement that starts at the cursor, if a keyword starts one there. -/
def ofStatement (p : Program) (before : State) : List Event :=
  let reading := p.read before.cursor.offset
  match reading.found with
  | .ok (.keyword word) => [.statement word reading.stop]
  | _ => []

/-- The lines that were rejected between two states of a run. -/
def ofWarnings (before after : State) : List Event :=
  let added := after.warnings.length - before.warnings.length
  (after.warnings.take added).reverse.map .inputRejected

def ofProgress : Progress → List Event
  | .moved => []
  | .jumped source target => [.jumped source target]
  | .finished completion => [.finished completion]

end Event

/-! ### Settings -/

/-- Admits the events of the targets that start with `target`, up to a rank. -/
structure Directive where
  target : String
  rank : Nat
deriving DecidableEq, Repr

/-- A setting consists of directives; the one with the longest target that fits
decides about an event. -/
abbrev LogFilter := List Directive

namespace LogFilter

/-- `level`, `target` or `target=level`. -/
def directive? (text : String) : Option Directive :=
  match text.splitOn "=" with
  | [""] => none
  | [word] =>
    match Level.ranksOf? word with
    | some rank => some ⟨"", rank⟩
    | none => some ⟨word, Level.trace.rank⟩
  | [target, word] => (Level.ranksOf? word).map (⟨target, ·⟩)
  | _ => none

/-- The directives of a setting, which stand between commas. -/
def ofString (setting : String) : LogFilter := (setting.splitOn ",").filterMap directive?

/-- Admits every event of a run. -/
def everything : LogFilter := [⟨"small_basic", Level.trace.rank⟩]

/-- Of two directives the one with the longer target, or the later one. -/
def moreSpecific (chosen : Option Directive) (other : Directive) : Option Directive :=
  match chosen with
  | none => some other
  | some directive =>
    if directive.target.length ≤ other.target.length then some other else some directive

def admits (filter : LogFilter) (event : Event) : Bool :=
  let fitting := filter.filter fun directive => event.target.startsWith directive.target
  match fitting.foldl moreSpecific none with
  | none => false
  | some directive => event.level.rank ≤ directive.rank

/-- The log of some events. -/
def render (filter : LogFilter) (events : List Event) : String :=
  String.join ((events.filter filter.admits).map Event.render)

end LogFilter

end LineBasic

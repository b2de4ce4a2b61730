import LineBasic.CommandLine.Arguments
import LineBasic.Log
import LineBasic.Terminal

/-!
# A session of the command line

What the program does for given arguments, files and input: the exit code and
what is written to the two output streams. A session goes turn by turn, each of
which is a step of the run together with the events to report; `respond` takes
all turns at once, for an input that is known from the start.
-/

namespace LineBasic.CommandLine

def versionText : String := "small-basic 0.1.0\n"

def helpText : String := "Small BASIC interpreter

Usage: small-basic [OPTIONS] <FILE>

Arguments:
  <FILE>  Program file to run

Options:
      --tab-width <TAB_WIDTH>  Column stop used by `,` in PRINT lists [default: 8]
      --max-labels <N>         Fail if the program defines more than this many labels
      --trace                  Log every statement and jump to stderr
  -h, --help                   Print help
  -V, --version                Print version
"

/-- The exit code when a program could not be loaded or run to its end. -/
def failureCode : UInt32 := 1

/-- The exit code when the arguments were refused. -/
def refusalCode : UInt32 := 2

/-- The events that are reported. Asking for a trace overrides the setting. -/
def logFilter (trace : Bool) (setting : Option String) : LogFilter :=
  if trace then .everything
  else
    match setting with
    | some setting => .ofString setting
    | none => []

def loadFailureText (failure : Failure) : String := "Error: " ++ failure.message ++ "\n"

def runFailureText (failure : Failure) (line : Nat) : String :=
  "Error: " ++ failure.message ++ " (line " ++ toString line ++ ")\n"

/-! ### Turns -/

/-- The machine after a turn, what the turn has to report, and how the run
ended if it did. -/
structure Turn where
  machine : Machine Terminal
  events : List Event
  ending : Option (Except Failure Completion) := none

/-- The first turn, which collects the labels. -/
def Turn.first (p : Program) (config : Config) (machine : Machine Terminal) : Turn :=
  match Machine.start p config machine with
  | .ok _ after =>
    let labels := after.state.labels.length
    ⟨after, [.labelsCollected labels, .started p.length labels], none⟩
  | .error failure after => ⟨after, [], some (.error failure)⟩

/-- A further turn, which takes a step of the run. -/
def Turn.next (p : Program) (config : Config) (machine : Machine Terminal) : Turn :=
  let statement := Event.ofStatement p machine.state
  match Machine.step p config machine with
  | .error failure after => ⟨after, statement, some (.error failure)⟩
  | .ok progress after =>
    let events := statement ++ Event.ofWarnings machine.state after.state ++
      Event.ofProgress progress
    match progress with
    | .finished completion => ⟨after, events, some (.ok completion)⟩
    | _ => ⟨after, events, none⟩

/-! ### Whole sessions -/

/-- What a session leaves behind. -/
structure Report where
  code : UInt32
  output : String := ""
  errors : String := ""
deriving DecidableEq, Repr

/-- Takes turns until the run ends, at most `steps` many. The events are
collected with the latest first. -/
def Turn.last (p : Program) (config : Config) : (steps : Nat) → Turn → Option Turn
  | steps, turn =>
    match turn.ending, steps with
    | some _, _ => some turn
    | none, 0 => none
    | none, steps + 1 =>
      let following := Turn.next p config turn.machine
      Turn.last p config steps
        { following with events := following.events.reverse ++ turn.events }

/-- Loads a program and runs it in at most `steps` steps. -/
def runFile (file : String) (config : Config) (filter : LogFilter)
    (contents : Except ReadFault (List UInt8)) (input : List UInt8) (steps : Nat) :
    Option Report :=
  match loadSource file contents with
  | .error failure => some { code := failureCode, errors := loadFailureText failure }
  | .ok source => do
    let p := Program.ofString source
    let first := Turn.first p config { console := { input } }
    let loaded := Event.loaded file source.utf8ByteSize
    let turn ← Turn.last p config steps { first with events := first.events.reverse ++ [loaded] }
    let log := filter.render turn.events.reverse
    let output := turn.machine.console.output
    match turn.ending with
    | some (.error failure) =>
      return ⟨failureCode, output, log ++ runFailureText failure (turn.machine.lineNumber p)⟩
    | _ => return ⟨0, output, log⟩

/-- The report of a session whose run ends within `steps` steps. Refused
arguments are answered by their exit code alone. -/
def respond (arguments : List String) (setting : Option String)
    (contentsOf : String → Except ReadFault (List UInt8)) (input : List UInt8) (steps : Nat) :
    Option Report :=
  match request? arguments with
  | none => some { code := refusalCode }
  | some .help => some { code := 0, output := helpText }
  | some .version => some { code := 0, output := versionText }
  | some (.run file config trace) =>
    runFile file config (logFilter trace setting) (contentsOf file) input steps

end LineBasic.CommandLine

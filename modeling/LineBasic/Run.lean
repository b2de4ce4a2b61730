import LineBasic.Statement

/-!
# Running a program

A run collects the labels, takes one step after the other from the start of the
program until it ends, and flushes the console. A step reads one token and
executes the statement that starts with it, if one does.

A program need not end, so a run is given a number of steps; a run that does not
finish within them has no result, and more steps never change the result of one
that does.
-/

namespace LineBasic

inductive Completion where
  | endOfProgram
  /-- By the statement END. -/
  | ended
deriving DecidableEq, Repr

/-- What a step did. -/
inductive Progress where
  /-- The run goes on at the cursor. -/
  | moved
  /-- The cursor was moved from `source` to `target`. -/
  | jumped (source target : Nat)
  | finished (completion : Completion)
deriving DecidableEq, Repr

namespace Machine

open Exec

variable {σ : Type}

/-- Forgets the run before and collects the labels. If that fails, the position
of the failure counts as that of the statement. -/
def start (p : Program) (config : Config) : Exec σ Unit := fun ⟨state, console⟩ =>
  let fresh : State := { labels := state.labels }
  match Labels.collect p config.labelCapacity state.cursor with
  | .ok labels cursor => .ok () ⟨{ fresh with labels, cursor }, console⟩
  | .error failure cursor =>
    .error failure ⟨{ fresh with cursor, statementStart := cursor.offset }, console⟩

section Steps

variable {μ : Type} [Executes μ]

/-- Moves the cursor as a statement asks for. -/
def follow (p : Program) : Flow → ExecOn μ Progress
  | .onward => return .moved
  | .halt => return .finished .ended
  | .jump target => do
    let source := (← getState).cursor.offset
    modifyState fun state => { state with cursor := Cursor.jump p target }
    return .jumped source target

variable [Converses μ]

/-- One step of a run. Labels, empty lines and delimiters that start no statement
are passed over. -/
def step (p : Program) (config : Config) : ExecOn μ Progress := do
  match ← next p with
  | .endOfProgram => return .finished .endOfProgram
  | .name _ =>
    giveBack
    markStatement
    Statement.assignment p
    return .moved
  | .keyword word =>
    markStatement
    follow p (← Statement.perform p config word)
  | _ => return .moved

end Steps

variable [Console σ]

/-- Takes steps until the program ends, at most `steps` many. -/
def loop (p : Program) (config : Config) : (steps : Nat) → Exec σ (Option Completion)
  | 0 => return none
  | steps + 1 => do
    match ← step p config with
    | .finished completion => return some completion
    | _ => loop p config steps

/-- Runs a program from its start, in at most `steps` steps. -/
def run (p : Program) (config : Config) (steps : Nat) : Exec σ (Option Completion) := do
  start p config
  match ← loop p config steps with
  | none => return none
  | some completion =>
    flush
    return some completion

end Machine

end LineBasic

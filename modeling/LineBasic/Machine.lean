import LineBasic.Console
import LineBasic.Expression
import LineBasic.Labels

/-!
# The machine that runs a program

A machine is the state of a run beside the console it talks to. Statements are
computations on a machine, `Exec`; one that fails leaves the machine as it was
when the failure arose, so that what a failed statement changed can be seen.

Statements are written over the operations they are made of, `Executes` and
`Converses`. So they can also run on a machine that has something beside it.

Three stacks hold what is still open: the loops of FOR, the calls of GOSUB and
the loops of REPEAT. Their innermost entries come first.
-/

namespace LineBasic

/-- A FOR loop that has been entered and not been left. -/
structure ForFrame where
  letter : Letter
  target : Float
  /-- Where the body starts. -/
  resume : Nat
deriving DecidableEq

/-- A line that INPUT could not read as a number. -/
structure Warning where
  line : Nat
  input : String
deriving DecidableEq, Repr

structure State where
  cursor : Cursor := {}
  labels : Labels := {}
  store : Store := .initial
  forStack : List ForFrame := []
  /-- Where RETURN goes on. -/
  gosubStack : List Nat := []
  /-- Where the bodies of the REPEAT loops start. -/
  repeatStack : List Nat := []
  /-- The lines that were rejected, the latest first. -/
  warnings : List Warning := []
  /-- An offset within the statement that is executed. -/
  statementStart : Nat := 0

structure Machine (σ : Type) where
  state : State := {}
  console : σ

/-- The line of the statement that was executed last, or that failed. -/
def Machine.lineNumber {σ : Type} (p : Program) (machine : Machine σ) : Nat :=
  p.lineAt machine.state.statementStart

/-- Computations on a machine, or on something that holds one. -/
abbrev ExecOn (μ : Type) := EStateM Failure μ

abbrev Exec (σ : Type) := ExecOn (Machine σ)

/-! ### What statements are made of -/

/-- What statements do to the state of a run. -/
class Executes (μ : Type) where
  getState : ExecOn μ State
  modifyState (change : State → State) : ExecOn μ Unit
  /-- Reads the token at the cursor. -/
  next (p : Program) : ExecOn μ Token
  giveBack : ExecOn μ Unit
  skipLine (p : Program) : ExecOn μ Unit
  /-- Evaluates the expression at the cursor. -/
  evaluate (p : Program) : ExecOn μ Float

/-- The calls that statements make to a console. -/
class Converses (μ : Type) where
  write (text : String) : ExecOn μ Unit
  flush : ExecOn μ Unit
  readLine : ExecOn μ (Option String)

namespace Exec

export Executes (getState modifyState next giveBack skipLine evaluate)
export Converses (write flush readLine)

section Derived

variable {μ : Type} [Executes μ]

def assign (letter : Letter) (value : Float) : ExecOn μ Unit :=
  modifyState fun state => { state with store := state.store.set letter value }

/-- Notes the position of the cursor as that of the statement. -/
def markStatement : ExecOn μ Unit :=
  modifyState fun state => { state with statementStart := state.cursor.offset }

end Derived

/-! ### Machines -/

variable {σ : Type}

/-- Runs a computation on the cursor. -/
def onCursor {α : Type} (scan : Scan α) : Exec σ α := fun ⟨state, console⟩ =>
  match scan state.cursor with
  | .ok value cursor => .ok value ⟨{ state with cursor }, console⟩
  | .error failure cursor => .error failure ⟨{ state with cursor }, console⟩

/-- Makes a call to the console; a reason to fail becomes the failure `cause`. -/
def onConsole {α : Type} (cause : String → Failure) (call : EStateM String σ α) : Exec σ α :=
  fun ⟨state, console⟩ =>
    match call console with
    | .ok value console => .ok value ⟨state, console⟩
    | .error reason console => .error (cause reason) ⟨state, console⟩

instance : Executes (Machine σ) where
  getState := return (← get).state
  modifyState change := modify fun machine => { machine with state := change machine.state }
  next p := onCursor (Cursor.next p)
  giveBack := onCursor (modify Cursor.giveBack)
  skipLine p := onCursor (modify (Cursor.skipLine p))
  evaluate p := do onCursor (Expression.evaluate p (← get).state.store)

instance [Console σ] : Converses (Machine σ) where
  write text := onConsole .outputFailed (Console.write text)
  flush := onConsole .outputFailed Console.flush
  readLine := onConsole .inputFailed Console.readLine

end Exec

end LineBasic

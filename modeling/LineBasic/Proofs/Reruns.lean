import LineBasic.Proofs.OneProgram
import LineBasic.Proofs.Runs

/-!
# Running a program again

A machine can run its program as often as one likes. A run forgets what the runs before it
have left, except for the labels, which stay as they are if those of the program cannot be
collected. But then they could not be collected in any run before either, and the machine
has no labels yet. So a run never depends on the runs before it.
-/

namespace LineBasic

/-- Collecting labels starts with the first line, wherever the cursor is. -/
theorem Labels.collect_anywhere (p : Program) (capacity : Option Nat) (cursor : Cursor) :
    collect p capacity cursor = collect p capacity {} :=
  rfl

namespace Machine

variable {σ : Type} {p : Program} {config : Config} {machine after : Machine σ}
  {failure : Failure} {stopped : Cursor} {steps : Nat}

/-- A start does not depend on what it finds, if there are labels only where they are
replaced. -/
theorem start_forgets (console : σ) {state : State}
    (replaced : ∀ failure stopped,
      Labels.collect p config.labelCapacity {} = .error failure stopped → state.labels = {}) :
    start p config ⟨state, console⟩ = start p config { console } := by
  simp only [start, Labels.collect_anywhere]
  cases collected : Labels.collect p config.labelCapacity {} with
  | ok => rfl
  | error failure stopped => rw [replaced failure stopped collected]

/-- A start that fails leaves the labels as they are. -/
theorem start_labels (failed : start p config machine = .error failure after) :
    after.state.labels = machine.state.labels := by
  rw [start] at failed
  split at failed
  next => cases failed
  next =>
    cases failed
    rfl

theorem start_of_uncollected
    (uncollected : Labels.collect p config.labelCapacity {} = .error failure stopped) :
    ∃ after, start p config machine = .error failure after := by
  rw [start, Labels.collect_anywhere, uncollected]
  exact ⟨_, rfl⟩

variable [Console σ]

/-- The machines on which a program has been run any number of times. A run may have ended
in any way, or have been broken off after some steps, and between two runs the console may
have come into another state. -/
inductive Used (p : Program) (config : Config) : Machine σ → Prop
  | fresh (console : σ) : Used p config { console }
  | ran {machine after : Machine σ} {steps : Nat} {completion : Option Completion}
      (used : Used p config machine) (ran : run p config steps machine = .ok completion after) :
      Used p config after
  | failed {machine after : Machine σ} {steps : Nat} {failure : Failure}
      (used : Used p config machine) (failed : run p config steps machine = .error failure after) :
      Used p config after
  | exchanged {machine : Machine σ} (used : Used p config machine) (console : σ) :
      Used p config { machine with console }

/-- Where labels cannot be collected, no run has ever found any. -/
theorem Used.labels (used : Used p config machine)
    (uncollected : Labels.collect p config.labelCapacity {} = .error failure stopped) :
    machine.state.labels = {} := by
  induction used with
  | fresh => rfl
  | exchanged _ _ ih => exact ih
  | ran _ ran =>
    -- a run that gets beyond its start has collected labels
    obtain ⟨_, _, started, -⟩ := exists_of_bind_ok ran
    obtain ⟨_, failed⟩ := start_of_uncollected uncollected
    rw [failed] at started
    cases started
  | failed _ failed ih =>
    obtain ⟨_, unstarted⟩ := start_of_uncollected uncollected
    rw [run, bind_of_error unstarted] at failed
    cases failed
    rw [start_labels unstarted, ih]

theorem run_forgets (console : σ) {state : State}
    (replaced : ∀ failure stopped,
      Labels.collect p config.labelCapacity {} = .error failure stopped → state.labels = {}) :
    run p config steps ⟨state, console⟩ = run p config steps { console } := by
  have started := start_forgets console replaced
  simp only [run, bind, EStateM.bind, started]

/-- A run on a machine that has been used ends like one on a fresh machine with the same
console, with the same result in the same state, and makes the same calls on its way. -/
theorem run_of_used (used : Used p config machine) (steps : Nat) :
    run p config steps machine = run p config steps { console := machine.console } ∧
      machine.calls p config steps =
        calls p config steps ({ console := machine.console } : Machine σ) := by
  have replaced : ∀ failure stopped,
      Labels.collect p config.labelCapacity {} = .error failure stopped →
        machine.state.labels = {} :=
    fun failure stopped uncollected => used.labels uncollected
  constructor
  · exact run_forgets machine.console replaced
  · -- the record is part of the console, so a run that is listened to forgets as much
    have recorded : run p config steps machine.recording =
        run p config steps (recording ⟨{}, machine.console⟩) :=
      run_forgets _ replaced
    rw [calls, calls, recorded]

/-- Counts in a variable that no run may find changed, and asks for a number in between. -/
def countingOn : Program := .ofString "10 A=A+1\n20 INPUT B\n30 PRINT A;B\n"

/-- The first run fails for want of a line, with a label table, a changed variable and the
cursor behind the INPUT. The second is given a line and prints what a first run prints. -/
theorem run_of_used_countingOn :
    ∃ used : Machine Buffer, Used countingOn {} used ∧
      used.state.labels.length = 3 ∧ used.state.cursor.offset = 19 ∧
      used.console.input = ["5"] ∧
      run countingOn {} 20 used = run countingOn {} 20 { console := used.console } ∧
      (used.calls countingOn {} 20).length = 8 := by
  obtain ⟨failure, after, failed, checked⟩ := exists_of_failsWith (show
    failsWith (fun failure after => failure = .inputFailed "end of input" ∧
        after.state.labels.length = 3 ∧ after.state.cursor.offset = 19)
      (run countingOn {} 20 (⟨{}, {}⟩ : Machine Buffer)) = true
    by decide +kernel)
  obtain ⟨-, labels, cursor⟩ := of_decide_eq_true checked
  have once : Used countingOn {} after := Used.failed (Used.fresh ({} : Buffer)) failed
  have used := once.exchanged { input := ["5"] }
  obtain ⟨same, again⟩ := run_of_used used 20
  refine ⟨_, used, labels, cursor, rfl, same, ?_⟩
  have eight : (calls countingOn {} 20 (⟨{}, { input := ["5"] }⟩ : Machine Buffer)).length = 8 := by
    decide +kernel
  rw [again]
  exact eight

end Machine

end LineBasic

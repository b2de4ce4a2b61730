import LineBasic.Proofs.Effects

/-!
# Runs step by step

A run is a start and then one step after the other. Between its steps it can be
stopped: a loop that is given `steps` steps and returns none has come to the machine
on which the next step would be taken.

`Machine.loop_invariant` carries what every step preserves over to all such machines, and
`Machine.loop_along` what every step adds to an account of the run. `Machine.run_error`
traces a failure back to the part of the run that failed, and `Machine.run_runsTo` takes a
whole run apart into its start, its loop and the final flush.
-/

namespace LineBasic

/-- Where the statement stands that starts with the token at the cursor. If the token
starts none, the place noted before stays. -/
def State.noted (p : Program) (state : State) : Nat :=
  match (state.reading p).found with
  | .ok (.keyword _) => (state.reading p).stop
  | .ok (.name _) => (state.reading p).start
  | _ => state.statementStart

namespace Machine

open Exec Statement

variable {σ : Type} [Console σ] {p : Program} {config : Config} {machine after : Machine σ}
  {token : Token} {word : Keyword} {failure : Failure} {steps : Nat}

/-! ### The place of a statement -/

/-- Whether it succeeds or fails, a computation ends in such a state. -/
def EndsIn {σ α : Type} (holds : State → Prop) : EStateM.Result Failure (Machine σ) α → Prop :=
  Leaves (fun _ after => holds after.state) fun _ after => holds after.state

section EndsIn

omit [Console σ]

variable {α β : Type} {holds weaker : State → Prop}

theorem EndsIn.imp {result : EStateM.Result Failure (Machine σ) α} (ends : EndsIn holds result)
    (imp : ∀ {state}, holds state → weaker state) : EndsIn weaker result :=
  Leaves.imp ends (fun _ _ held => imp held) fun _ _ held => imp held

theorem EndsIn.bind {exec : Exec σ α} {next : α → Exec σ β} (ends : EndsIn holds (exec machine))
    (goes : ∀ value {between : Machine σ}, holds between.state →
      EndsIn holds (next value between)) : EndsIn holds ((exec >>= next) machine) :=
  Leaves.bind ends fun value _ held => goes value held

theorem endsIn_of_scans {exec : Exec σ α} {first : Reading} {same : State → State → Prop}
    (scans : Scans p first same exec) (ahead : p.Ahead first machine.state.cursor) :
    EndsIn (same machine.state) (exec machine) :=
  (scans ahead).imp (fun _ _ held => held.1) fun _ _ held => held

theorem next_moved (machine : Machine σ) :
    EndsIn machine.state.Moved (next p machine) := by
  cases found : (machine.state.reading p).found with
  | ok token =>
    rw [next_ok found]
    exact .ok ⟨_, rfl⟩
  | error failure =>
    rw [next_error found]
    exact .error ⟨_, rfl⟩

theorem branch_fixed (found : (machine.state.reading p).found = .ok token) :
    EndsIn (machine.dispatched p).state.Fixed (branch p (machine.dispatched p)) := by
  have reading := isReading p machine.state
  have evaluated := endsIn_of_scans (scans_evaluate reading) (ahead_dispatched found)
  apply (evaluated.imp State.Moved.fixed).bind
  intro value between fixed
  split
  · apply ((next_moved between).imp fun moved => fixed.trans moved.fixed).bind
    intro token behind kept
    split
    · exact .ok kept
    · exact .error kept
  · exact .ok ⟨fixed.labels, fixed.statementStart⟩

end EndsIn

/-- However a statement ends, the place noted for it and the labels are the same. -/
theorem perform_fixed (config : Config)
    (found : (machine.state.reading p).found = .ok (.keyword word)) :
    EndsIn (machine.dispatched p).state.Fixed (perform p config word (machine.dispatched p)) := by
  by_cases isIf : word = .IF
  · subst isIf
    exact (branch_fixed found).bind fun _ _ fixed => .ok fixed
  · exact endsIn_of_scans (scans_perform (isReading p machine.state) config isIf)
      (ahead_dispatched found)

/-- However a step ends, its statement has been noted. -/
theorem step_notes (p : Program) (config : Config) (machine : Machine σ) :
    EndsIn (·.statementStart = machine.state.noted p) (step p config machine) := by
  rw [State.noted]
  cases found : (machine.state.reading p).found with
  | error failure =>
    rw [step_of_error found]
    exact .error rfl
  | ok token =>
    cases token with
    | name text =>
      rw [step_of_name found]
      have same := endsIn_of_scans (scans_assignment (isReading p machine.state))
        (ahead_assigning found)
      exact (same.imp fun kept => kept.statementStart).bind fun _ _ kept => .ok kept
    | keyword word =>
      rw [step_of_keyword found]
      apply ((perform_fixed config found).imp fun kept => kept.statementStart).bind
      intro flow between kept
      cases flow <;> exact .ok kept
    | endOfProgram | delimiter | endOfLine | number | quoted =>
      rw [step, bind_of_ok (next_ok found)]
      exact .ok rfl

/-! ### Starts and loops -/

omit [Console σ] in
/-- A start that succeeds leaves a fresh state, but for the labels it has collected. -/
theorem start_eq_ok {before first : Machine σ} (started : start p config before = .ok () first) :
    ∃ cursor, Labels.collect p config.labelCapacity before.state.cursor =
        .ok first.state.labels cursor ∧
      first = ⟨{ labels := first.state.labels, cursor }, before.console⟩ := by
  rw [start] at started
  split at started
  next labels cursor collected =>
    cases started
    exact ⟨cursor, collected, rfl⟩
  next => cases started

/-- What holds of the first machine and is preserved by each step holds at the end. -/
theorem loop_invariant (Inv : Machine σ → Prop) {completion : Option Completion}
    (preserved : ∀ {before after : Machine σ} {progress}, Inv before →
      step p config before = .ok progress after → Inv after)
    (holds : Inv machine) (ran : loop p config steps machine = .ok completion after) :
    Inv after := by
  induction steps generalizing machine with
  | zero =>
    cases ran
    exact holds
  | succ steps ih =>
    obtain ⟨progress, between, stepped, ran⟩ := exists_of_bind_ok ran
    have kept := preserved holds stepped
    cases progress with
    | finished =>
      cases ran
      exact kept
    | moved | jumped => exact ih kept ran

/-- The machine before the last step of a loop that has not finished. -/
theorem loop_last (ran : loop p config (steps + 1) machine = .ok none after) :
    ∃ between progress, loop p config steps machine = .ok none between ∧
      step p config between = .ok progress after := by
  -- a loop takes its first step first, so the induction is over the steps behind it
  induction steps generalizing machine with
  | zero =>
    obtain ⟨progress, between, stepped, ran⟩ := exists_of_bind_ok ran
    cases progress with
    | finished => cases ran
    | moved | jumped =>
      cases ran
      exact ⟨machine, _, rfl, stepped⟩
  | succ steps ih =>
    obtain ⟨progress, between, stepped, ran⟩ := exists_of_bind_ok ran
    cases progress with
    | finished => cases ran
    | moved | jumped =>
      obtain ⟨last, further, reached, final⟩ := ih ran
      refine ⟨last, further, ?_, final⟩
      rw [loop, bind_of_ok stepped]
      exact reached

/-- A loop fails at one of its steps. -/
theorem loop_error (failed : loop p config steps machine = .error failure after) :
    ∃ taken < steps, ∃ between, loop p config taken machine = .ok none between ∧
      step p config between = .error failure after := by
  induction steps generalizing machine with
  | zero => cases failed
  | succ steps ih =>
    rcases cases_of_bind_error failed with first | ⟨progress, between, stepped, later⟩
    · exact ⟨0, by omega, machine, rfl, first⟩
    · cases progress with
      | finished => cases later
      | moved | jumped =>
        obtain ⟨taken, fewer, last, reached, final⟩ := ih later
        refine ⟨taken + 1, by omega, last, ?_, final⟩
        rw [loop, bind_of_ok stepped]
        exact reached

/-! ### What steps add up to -/

section Along

variable {β : Type} {adds : Machine σ → List β}
  {related broken : Machine σ → List β → Machine σ → Prop}

/-- What the steps of a run add, one after the other, within a number of steps. -/
def along (adds : Machine σ → List β) (p : Program) (config : Config) :
    (steps : Nat) → Machine σ → List β
  | 0, _ => []
  | steps + 1, machine =>
    adds machine ++
      match step p config machine with
      | .ok (.finished _) _ | .error _ _ => []
      | .ok _ after => along adds p config steps after

/-- A relation between the machines before and after some steps and what these have added,
and one for steps of which the last has failed. They can be put together step by step. -/
structure AddsUp (related broken : Machine σ → List β → Machine σ → Prop) : Prop where
  refl : ∀ machine, related machine [] machine
  trans : ∀ {before between after earlier later}, related before earlier between →
    related between later after → related before (earlier ++ later) after
  breaks : ∀ {before between after earlier later}, related before earlier between →
    broken between later after → broken before (earlier ++ later) after

/-- What holds of each step and what it adds holds of a loop and what its steps add. -/
theorem loop_along (addsUp : AddsUp related broken)
    (holds : ∀ machine, Leaves (fun _ => related machine (adds machine))
      (fun _ => broken machine (adds machine)) (step p config machine))
    (steps : Nat) (machine : Machine σ) :
    Leaves (fun _ => related machine (along adds p config steps machine))
      (fun _ => broken machine (along adds p config steps machine))
      (loop p config steps machine) := by
  induction steps generalizing machine with
  | zero => exact .ok (addsUp.refl machine)
  | succ steps ih =>
    rw [loop, along]
    have first := holds machine
    cases stepped : step p config machine with
    | error failure after =>
      rw [bind_of_error stepped]
      exact .error (by simpa using first.of_error stepped)
    | ok progress after =>
      rw [bind_of_ok stepped]
      have before := first.of_ok stepped
      cases progress with
      | finished => exact .ok (by simpa using before)
      | moved | jumped =>
        exact (ih after).imp (fun _ _ => addsUp.trans before) fun _ _ => addsUp.breaks before

end Along

/-! ### Whole runs -/

/-- A run fails when it collects the labels, at a step or when it flushes the console. -/
theorem run_error {before : Machine σ} (failed : run p config steps before = .error failure after) :
    start p config before = .error failure after ∨
      ∃ first, start p config before = .ok () first ∧
        ((∃ taken < steps, ∃ between, loop p config taken first = .ok none between ∧
            step p config between = .error failure after) ∨
          ∃ completion last, loop p config steps first = .ok (some completion) last ∧
            flush last = .error failure after) := by
  rcases cases_of_bind_error failed with failed | ⟨_, first, started, failed⟩
  · exact .inl failed
  · refine .inr ⟨first, started, ?_⟩
    rcases cases_of_bind_error failed with failed | ⟨completion, last, looped, failed⟩
    · exact .inl (loop_error failed)
    · cases completion with
      | none => cases failed
      | some completion =>
        rcases cases_of_bind_error failed with failed | ⟨_, _, _, returned⟩
        · exact .inr ⟨completion, last, looped, failed⟩
        · cases returned

/-- How far a run gets, by its parts. -/
inductive RunsTo (p : Program) (config : Config) (steps : Nat) (before : Machine σ) :
    EStateM.Result Failure (Machine σ) (Option Completion) → Prop
  | unstarted {failure : Failure} {after : Machine σ}
      (failed : start p config before = .error failure after) :
      RunsTo p config steps before (.error failure after)
  | broken {first after : Machine σ} {failure : Failure}
      (started : start p config before = .ok () first)
      (failed : loop p config steps first = .error failure after) :
      RunsTo p config steps before (.error failure after)
  | underway {first after : Machine σ} (started : start p config before = .ok () first)
      (ran : loop p config steps first = .ok none after) :
      RunsTo p config steps before (.ok none after)
  | through {first last : Machine σ} {completion : Completion}
      (started : start p config before = .ok () first)
      (ran : loop p config steps first = .ok (some completion) last) :
      RunsTo p config steps before ((do flush; return some completion) last)

theorem run_runsTo (p : Program) (config : Config) (steps : Nat) (before : Machine σ) :
    RunsTo p config steps before (run p config steps before) := by
  rw [run]
  cases started : start p config before with
  | error failure after =>
    rw [bind_of_error started]
    exact .unstarted started
  | ok _ first =>
    rw [bind_of_ok started]
    cases looped : loop p config steps first with
    | error failure after =>
      rw [bind_of_error looped]
      exact .broken started looped
    | ok completion last =>
      rw [bind_of_ok looped]
      cases completion with
      | none => exact .underway started looped
      | some completion => exact .through started looped

end Machine

end LineBasic

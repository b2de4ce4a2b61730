import LineBasic.Proofs.Keeping
import LineBasic.Proofs.Runs

/-!
# Silent statements

Only PRINT and INPUT make calls to the console and reject lines. All other statements are
silent, however they end: `Machine.step_silent`.
-/

namespace LineBasic

/-- No call has been made to the console, and no line has been rejected. -/
structure Machine.Silent {σ : Type} (before after : Machine σ) : Prop where
  console : after.console = before.console
  warnings : after.state.warnings = before.state.warnings

theorem Machine.Silent.trans {σ : Type} {before between after : Machine σ}
    (silent : before.Silent between) (further : between.Silent after) : before.Silent after where
  console := further.console.trans silent.console
  warnings := further.warnings.trans silent.warnings

namespace Exec

variable {σ α β : Type} {p : Program}

/-- However the computation ends, it has said nothing. -/
def SaysNothing (exec : Exec σ α) : Prop :=
  ∀ machine, Leaves (fun _ => machine.Silent) (fun _ => machine.Silent) (exec machine)

theorem kept_silent : Kept (@Machine.Silent σ) :=
  ⟨fun _ _ => ⟨rfl, rfl⟩, Machine.Silent.trans⟩

theorem SaysNothing.bind {exec : Exec σ α} {next : α → Exec σ β} (silent : SaysNothing exec)
    (goes : ∀ value, SaysNothing (next value)) : SaysNothing (exec >>= next) :=
  kept_silent.bind silent goes

theorem silent_pure (value : α) : SaysNothing (pure value : Exec σ α) := kept_silent.pure value

theorem silent_throw (failure : Failure) : SaysNothing (throw failure : Exec σ α) :=
  kept_silent.throw failure

theorem silent_getState : SaysNothing (getState : Exec σ State) := kept_silent.getState

theorem silent_modifyState {change : State → State}
    (kept : ∀ state, (change state).warnings = state.warnings) :
    SaysNothing (modifyState change : Exec σ Unit) :=
  fun machine => .ok ⟨rfl, kept machine.state⟩

theorem silent_change_then {change : State → State} {next : Unit → Exec σ α}
    (kept : ∀ state, (change state).warnings = state.warnings) (goes : SaysNothing (next ())) :
    SaysNothing (modifyState change >>= next) :=
  (silent_modifyState kept).bind fun _ => goes

theorem silent_next : SaysNothing (next p : Exec σ Token) := kept_silent.next

theorem silent_evaluate : SaysNothing (evaluate p : Exec σ Float) := kept_silent.evaluate

theorem silent_assign (letter : Letter) (value : Float) :
    SaysNothing (assign letter value : Exec σ Unit) :=
  silent_modifyState fun _ => rfl

end Exec

namespace Statement

open Exec

variable {σ : Type} {p : Program}

theorem silent_expectVariable : SaysNothing (expectVariable p : Exec σ Letter) :=
  kept_silent.expectVariable

theorem silent_assignment : SaysNothing (assignment p : Exec σ Unit) :=
  silent_expectVariable.bind fun letter => SaysNothing.bind kept_silent.expectEqualSign fun _ =>
    silent_evaluate.bind fun value => silent_assign letter value

theorem silent_callSub : SaysNothing (callSub p : Exec σ Flow) := by
  apply kept_silent.bind kept_silent.expectLabel
  intro target
  exact silent_change_then (fun _ => rfl) (silent_pure _)

theorem silent_returnFromSub : SaysNothing (returnFromSub : Exec σ Flow) := by
  apply silent_getState.bind
  intro state
  cases state.gosubStack with
  | nil => exact silent_throw _
  | cons target rest => exact silent_change_then (fun _ => rfl) (silent_pure _)

theorem silent_enterFor : SaysNothing (enterFor p : Exec σ Unit) := by
  apply silent_expectVariable.bind
  intro letter
  apply kept_silent.bind kept_silent.expectEqualSign
  intro _
  apply silent_evaluate.bind
  intro start
  apply (silent_assign letter start).bind
  intro _
  apply silent_next.bind
  intro token
  apply kept_silent.require .toExpected
  apply silent_evaluate.bind
  intro target
  split
  · exact silent_modifyState fun _ => rfl
  · exact kept_silent.skipToNext _

theorem silent_endFor : SaysNothing (endFor p : Exec σ Flow) := by
  apply kept_silent.bind kept_silent.optionalVariable
  intro named
  apply silent_getState.bind
  intro state
  dsimp only
  cases state.forStack with
  | nil => exact silent_throw _
  | cons frame outer =>
    -- the loop is taken off before its variable is compared, and put back for another round
    refine silent_change_then (fun _ => rfl) ?_
    apply kept_silent.require .nextWithoutFor
    apply silent_getState.bind
    intro state
    refine (silent_assign _ _).bind fun _ => ?_
    split
    · exact silent_pure _
    · exact silent_change_then (fun _ => rfl) (silent_pure _)

theorem silent_endRepeat : SaysNothing (endRepeat p : Exec σ Flow) := by
  apply silent_getState.bind
  intro state
  cases state.repeatStack with
  | nil => exact silent_throw _
  | cons start outer =>
    refine silent_change_then (fun _ => rfl) ?_
    apply silent_evaluate.bind
    intro value
    split
    · exact silent_change_then (fun _ => rfl) (silent_pure _)
    · exact silent_pure _

/-- All statements but PRINT and INPUT are silent. -/
theorem silent_perform [Console σ] (config : Config) {word : Keyword} (notPrint : word ≠ .PRINT)
    (notInput : word ≠ .INPUT) : SaysNothing (perform p config word : Exec σ Flow) := by
  cases word with
  | PRINT => exact absurd rfl notPrint
  | INPUT => exact absurd rfl notInput
  | IF => exact kept_silent.bind kept_silent.branch fun _ => silent_pure _
  | FOR => exact silent_enterFor.bind fun _ => silent_pure _
  | REPEAT => exact silent_change_then (fun _ => rfl) (silent_pure _)
  | THEN | TO | END => exact silent_pure _
  | GOTO => exact kept_silent.goto
  | GOSUB => exact silent_callSub
  | RETURN => exact silent_returnFromSub
  | NEXT => exact silent_endFor
  | UNTIL => exact silent_endRepeat

end Statement

namespace Machine

open Exec Statement

variable {σ : Type} [Console σ] {p : Program} {machine : Machine σ}

omit [Console σ] in
theorem silent_follow (flow : Flow) : SaysNothing (follow p flow : Exec σ Progress) := by
  cases flow with
  | onward | halt => exact silent_pure _
  | jump target =>
    exact silent_getState.bind fun _ => silent_change_then (fun _ => rfl) (silent_pure _)

/-- PRINT and INPUT do not jump. -/
theorem step_of_print {config : Config}
    (found : (machine.state.reading p).found = .ok (.keyword .PRINT)) :
    step p config machine = (do print p config; return Progress.moved) (machine.dispatched p) := by
  rw [step_of_keyword found, perform, bind_assoc]
  rfl

theorem step_of_input {config : Config}
    (found : (machine.state.reading p).found = .ok (.keyword .INPUT)) :
    step p config machine = (do input p config; return Progress.moved) (machine.dispatched p) := by
  rw [step_of_keyword found, perform, bind_assoc]
  rfl

omit [Console σ] in
/-- A start does not use the console. -/
theorem start_console (p : Program) (config : Config) (machine : Machine σ) :
    (finalState (start p config machine)).console = machine.console := by
  rw [start]
  split <;> rfl

/-- A step that executes neither PRINT nor INPUT is silent. -/
theorem step_silent (config : Config)
    (notPrint : (machine.state.reading p).found ≠ .ok (.keyword .PRINT))
    (notInput : (machine.state.reading p).found ≠ .ok (.keyword .INPUT)) :
    Leaves (fun _ => machine.Silent) (fun _ => machine.Silent) (step p config machine) := by
  cases found : (machine.state.reading p).found with
  | error failure =>
    rw [step_of_error found]
    exact .error ⟨rfl, rfl⟩
  | ok token =>
    rw [found] at notPrint notInput
    cases token with
    | name text =>
      -- the place of the statement is noted, which is nothing that is said
      have silent : SaysNothing (do assignment p; return Progress.moved : Exec σ Progress) :=
        silent_assignment.bind fun _ => silent_pure _
      rw [step_of_name found]
      exact (silent (machine.assigning p)).imp (fun _ _ said => ⟨said.console, said.warnings⟩)
        fun _ _ said => ⟨said.console, said.warnings⟩
    | keyword word =>
      have silent : SaysNothing (perform p config word >>= follow p : Exec σ Progress) :=
        (silent_perform config (by simpa using notPrint) (by simpa using notInput)).bind
          silent_follow
      rw [step_of_keyword found]
      exact (silent (machine.dispatched p)).imp (fun _ _ said => ⟨said.console, said.warnings⟩)
        fun _ _ said => ⟨said.console, said.warnings⟩
    | endOfProgram | delimiter | endOfLine | number | quoted =>
      rw [step, bind_of_ok (next_ok found)]
      exact .ok ⟨rfl, rfl⟩

end Machine

end LineBasic

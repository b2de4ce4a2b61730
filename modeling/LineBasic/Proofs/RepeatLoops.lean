import LineBasic.Proofs.Rounds
import LineBasic.Proofs.SkippedBodies

/-!
# REPEAT loops

A REPEAT loop is tested at its end. UNTIL evaluates its condition with the loop off the stack, and
puts it back if the condition is zero.

`Machine.repeat_rounds` says that the body is executed up to the first condition that is not zero,
whatever is executed there, and that a round goes on with the variables that the round before has
left. For this, each round has to come to an UNTIL of the loop whose condition has a value.
-/

namespace LineBasic

theorem Expression.read_of_valueAt? {p : Program} {store : Store} {offset resume : Nat}
    {value : Float} (known : valueAt? p store offset = some (value, resume)) :
    (p.read resume).start = resume := by
  obtain ⟨last, ⟨tokens, passes, -⟩, rfl⟩ := follows_of_valueAt? known
  obtain ⟨place, rfl⟩ := passes.isReading ⟨offset, rfl⟩
  exact congrArg Reading.start (p.read_start place)

namespace Statement

open Exec

/-- An UNTIL of the innermost loop goes on with the loop if its condition is zero, and else
leaves it. -/
theorem endRepeat_of_valueAt? {σ : Type} {p : Program} {machine : Machine σ} {start : Nat}
    {outer : List Nat} {value : Float} {resume : Nat}
    (stack : machine.state.repeatStack = start :: outer)
    (condition : Expression.valueAt? p machine.state.store machine.state.cursor.offset =
      some (value, resume)) :
    endRepeat p machine =
      if value == 0.0 then .ok (.jump start) (machine.withCursor ⟨resume, none⟩)
      else
        .ok .onward
          ⟨{ machine.state with cursor := ⟨resume, none⟩, repeatStack := outer },
            machine.console⟩ := by
  have got : (getState : Exec σ State) machine = .ok machine.state machine := rfl
  -- the loop is off the stack while its condition is evaluated
  let closed (cursor : Cursor) : Machine σ :=
    ⟨{ machine.state with cursor, repeatStack := outer }, machine.console⟩
  have evaluated : evaluate p (closed machine.state.cursor) =
      .ok value (closed ⟨resume, none⟩) :=
    evaluate_of_valueAt? condition
  have closes : (modifyState fun state => { state with repeatStack := outer } : Exec σ Unit)
      machine = .ok () (closed machine.state.cursor) := rfl
  rw [endRepeat, bind_of_ok got, stack]
  dsimp only
  rw [bind_of_ok closes, bind_of_ok evaluated]
  split
  · change EStateM.Result.ok _ (Machine.mk { machine.state with
      cursor := ⟨resume, none⟩, repeatStack := start :: outer } machine.console) = _
    rw [← stack]
    rfl
  · rfl

end Statement

namespace Machine

open Statement LoopKind

variable {σ : Type} [Console σ] {p : Program} {config : Config} {machine : Machine σ}

/-! ### The steps of a loop -/

omit [Console σ] in
/-- The machine behind a REPEAT. -/
def openedRepeat (p : Program) (machine : Machine σ) : Machine σ :=
  { machine with
    state := { machine.state with
      cursor := .behind (machine.state.reading p)
      repeatStack := (machine.state.reading p).stop :: machine.state.repeatStack
      statementStart := (machine.state.reading p).stop } }

omit [Console σ] in
/-- The machine behind an UNTIL, with the cursor and the loops that it leaves. -/
def testedRepeat (p : Program) (cursor : Cursor) (loops : List Nat) (machine : Machine σ) :
    Machine σ :=
  { machine with
    state := { machine.state with
      cursor
      repeatStack := loops
      statementStart := (machine.state.reading p).stop } }

theorem step_of_repeat (found : (machine.state.reading p).found = .ok (.keyword .REPEAT)) :
    step p config machine = .ok .moved (machine.openedRepeat p) := by
  rw [step_of_keyword found]
  rfl

theorem step_of_until {start resume : Nat} {outer : List Nat} {value : Float}
    (closes : repeating.Closes p start outer machine.state)
    (condition : Expression.valueAt? p machine.state.store (machine.state.reading p).stop =
      some (value, resume)) :
    step p config machine =
      if value == 0.0 then
        .ok (.jumped resume start) (machine.testedRepeat p (.jump p start) (start :: outer))
      else .ok .moved (machine.testedRepeat p ⟨resume, none⟩ outer) := by
  obtain ⟨found, stack⟩ := closes_repeating.mp closes
  have ran := @endRepeat_of_valueAt? σ p (machine.dispatched p) start outer value resume stack
    condition
  rw [step_of_keyword found]
  by_cases zero : value == 0.0
  · rw [if_pos zero] at ran ⊢
    have performed : perform p config .UNTIL (machine.dispatched p) = _ := ran
    rw [bind_of_ok performed, ← stack]
    rfl
  · rw [if_neg zero] at ran ⊢
    exact bind_of_ok ran

/-! ### The rounds of a loop -/

/-- The rounds of a loop that the REPEAT at the cursor opens. -/
def RepeatRound (p : Program) (config : Config) (machine : Machine σ) : Nat → Machine σ → Prop :=
  Round p config
    (repeating.Closes p (machine.state.reading p).stop machine.state.repeatStack)
    (machine.openedRepeat p)

section Rounds

variable {conditions : Nat → Float}
  (comesBack : ∀ count entry, machine.RepeatRound p config count entry →
    ∃ closing resume,
      RunsUntil p config
        (repeating.Closes p (machine.state.reading p).stop machine.state.repeatStack)
        entry closing ∧
      Expression.valueAt? p closing.state.store (closing.state.reading p).stop =
        some (conditions count, resume))
  {count : Nat} {entry closing : Machine σ}

include comesBack

/-- A round ends at an UNTIL, which goes on with the loop if the condition is zero. -/
theorem repeatRound_ends (round : machine.RepeatRound p config count entry)
    (through : RunsUntil p config
      (repeating.Closes p (machine.state.reading p).stop machine.state.repeatStack)
      entry closing) :
    ∃ resume, Expression.valueAt? p closing.state.store (closing.state.reading p).stop =
        some (conditions count, resume) ∧
      step p config closing =
        if conditions count == 0.0 then
          .ok (.jumped resume (machine.state.reading p).stop)
            (closing.testedRepeat p (.jump p (machine.state.reading p).stop)
              ((machine.state.reading p).stop :: machine.state.repeatStack))
        else .ok .moved (closing.testedRepeat p ⟨resume, none⟩ machine.state.repeatStack) := by
  obtain ⟨_, resume, reaches, condition⟩ := comesBack count entry round
  cases through.unique reaches
  exact ⟨resume, condition, step_of_until through.2 condition⟩

/-- A round starts behind the REPEAT, with the loop on the stack. -/
theorem repeatRound_starts (found : (machine.state.reading p).found = .ok (.keyword .REPEAT))
    (round : machine.RepeatRound p config count entry) :
    entry.state.cursor.offset = (machine.state.reading p).stop ∧
      entry.state.repeatStack =
        (machine.state.reading p).stop :: machine.state.repeatStack := by
  cases round with
  | first => exact ⟨rfl, rfl⟩
  | next earlier through back =>
    obtain ⟨resume, -, stepped⟩ := repeatRound_ends comesBack earlier through
    rw [stepped] at back
    split at back
    next =>
      cases back
      exact ⟨Nat.min_eq_left (Program.start_lt_stop found (by simp)).2, rfl⟩
    next => cases back

/-- A loop goes through its body up to the first condition that is not zero, whatever is executed
there, as long as each round comes to an UNTIL of the loop. Each round but the first starts with
the variables that the one before has left. Behind the last condition the run goes on with the
loops from before. A loop around it has not come to its own UNTIL until then. -/
theorem repeat_rounds (found : (machine.state.reading p).found = .ok (.keyword .REPEAT)) :
    step p config machine = .ok .moved (machine.openedRepeat p) ∧
      (∀ count entry, machine.RepeatRound p config count entry →
        entry.state.cursor.offset = (machine.state.reading p).stop ∧
          entry.state.repeatStack =
            (machine.state.reading p).stop :: machine.state.repeatStack) ∧
      (∀ count, (∃! entry, machine.RepeatRound p config count entry) ↔
        ∀ earlier < count, conditions earlier == 0.0) ∧
      (∀ count entry closing, machine.RepeatRound p config count entry →
        RunsUntil p config
          (repeating.Closes p (machine.state.reading p).stop machine.state.repeatStack)
          entry closing →
        conditions count == 0.0 →
          ∃ source next,
            step p config closing = .ok (.jumped source (machine.state.reading p).stop) next ∧
            machine.RepeatRound p config (count + 1) next ∧
            next.state.store = closing.state.store) ∧
      ∀ last, (∀ earlier < last, conditions earlier == 0.0) → ¬conditions last == 0.0 →
        ∃ entry closing resume steps after, machine.RepeatRound p config last entry ∧
          RunsUntil p config
            (repeating.Closes p (machine.state.reading p).stop machine.state.repeatStack)
            entry closing ∧
          Expression.valueAt? p closing.state.store (closing.state.reading p).stop =
            some (conditions last, resume) ∧
          (p.read resume).start = resume ∧ step p config closing = .ok .moved after ∧
          loop p config steps machine = .ok none after ∧ after.state.cursor = ⟨resume, none⟩ ∧
          after.state.repeatStack = machine.state.repeatStack ∧
          after.state.store = closing.state.store ∧
          ∀ around further last, machine.state.repeatStack = around :: further →
            RunsUntil p config (repeating.Closes p around further) after last →
              RunsUntil p config (repeating.Closes p around further) machine last := by
  have opened : step p config machine = .ok .moved (machine.openedRepeat p) :=
    step_of_repeat found
  have starts := fun count entry => @repeatRound_starts _ _ _ _ _ _ comesBack count entry found
  have rounds : ∀ count, (∃! entry, machine.RepeatRound p config count entry) ↔
      ∀ earlier < count, conditions earlier == 0.0 := by
    intro count
    apply Round.existsUnique_iff
    intro count entry round
    obtain ⟨closing, resume, reaches, -⟩ := comesBack count entry round
    obtain ⟨_, -, stepped⟩ := repeatRound_ends comesBack round reaches
    refine ⟨closing, reaches, ?_⟩
    rw [stepped]
    split
    next zero => simp [zero]
    next other => simp [other]
  refine ⟨opened, starts, rounds, ?_, ?_⟩
  · intro count entry closing round reaches zero
    obtain ⟨resume, -, stepped⟩ := repeatRound_ends comesBack round reaches
    rw [if_pos zero] at stepped
    exact ⟨resume, _, stepped, .next round reaches stepped, rfl⟩
  · intro last zeros other
    obtain ⟨entry, round, -⟩ := (rounds last).mpr zeros
    obtain ⟨closing, _, reaches, -⟩ := comesBack last entry round
    obtain ⟨resume, condition, stepped⟩ := repeatRound_ends comesBack round reaches
    rw [if_neg other] at stepped
    have loops : ∀ count entry, machine.RepeatRound p config count entry →
        repeating.stack entry.state =
          (machine.state.reading p).stop :: machine.state.repeatStack :=
      fun count entry round => (starts count entry round).2
    obtain ⟨steps, ran⟩ := loop_of_rounds loops opened round reaches stepped
    have opens : (machine.state.reading p).found ≠ .ok (.keyword .UNTIL) := by simp [found]
    exact ⟨entry, closing, resume, steps, _, round, reaches, condition,
      Expression.read_of_valueAt? condition, stepped, ran, rfl, rfl, rfl,
      fun _ _ _ => runsUntil_of_rounds loops opened round reaches stepped opens⟩

end Rounds

end Machine

namespace Machine

open LoopKind

/-- A loop whose body has a loop of each kind and a call. -/
def busyRepeat : Program := .ofString
  ("REPEAT\nA=A+1\nREPEAT\nFOR J=1 TO 2\nNEXT J\nUNTIL 1\nGOSUB 10\nUNTIL A=2\nEND\n" ++
    "10 RETURN\n")

/-- The body is executed twice: the condition is zero behind it once. -/
theorem repeat_rounds_busyRepeat :
    ∃ first : Machine Buffer, start busyRepeat {} ⟨{}, {}⟩ = .ok () first ∧
      (∃! entry, first.RepeatRound busyRepeat {} 1 entry) ∧
      ¬(∃! entry, first.RepeatRound busyRepeat {} 2 entry) ∧
      ∃ steps after, loop busyRepeat {} steps first = .ok none after ∧
        after.state.repeatStack = [] := by
  -- the condition is one behind the second round
  let conditions (count : Nat) : Float := if count = 1 then 1.0 else 0.0
  obtain ⟨_, first, started, checked⟩ := exists_of_succeedsWith (show
    succeedsWith (fun _ first =>
        (first.state.reading busyRepeat).found = .ok (.keyword .REPEAT) ∧
        (first.state.reading busyRepeat).stop = 6 ∧ first.state.repeatStack = [] ∧
        roundsPass busyRepeat {} (repeating.Closes busyRepeat 6 [])
          (fun count _ closing =>
            (Expression.valueAt? busyRepeat closing.state.store
              (closing.state.reading busyRepeat).stop).any (·.1 = conditions count))
          40 3 0 (first.openedRepeat busyRepeat) = true)
      (start busyRepeat {} (⟨{}, {}⟩ : Machine Buffer)) = true
    by decide +kernel)
  obtain ⟨found, stop, stack, passed⟩ := of_decide_eq_true checked
  have comesBack : ∀ count entry, first.RepeatRound busyRepeat {} count entry →
      ∃ closing resume,
        RunsUntil busyRepeat {}
          (repeating.Closes busyRepeat (first.state.reading busyRepeat).stop
            first.state.repeatStack) entry closing ∧
        Expression.valueAt? busyRepeat closing.state.store
          (closing.state.reading busyRepeat).stop = some (conditions count, resume) := by
    intro count entry round
    rw [RepeatRound, stop, stack] at round
    rw [stop, stack]
    obtain ⟨closing, reaches, test⟩ := Round.of_roundsPass passed round
    rw [Option.any_eq_true] at test
    obtain ⟨⟨_, resume⟩, condition, same⟩ := test
    exact ⟨closing, resume, reaches, of_decide_eq_true same ▸ condition⟩
  obtain ⟨-, -, rounds, -, leaves⟩ := repeat_rounds comesBack found
  have zeros : ∀ earlier < 1, conditions earlier == 0.0 := by decide +kernel
  have other : ¬conditions 1 == 0.0 := by decide +kernel
  refine ⟨first, started, (rounds 1).mpr zeros, ?_, ?_⟩
  · intro again
    exact other ((rounds 2).mp again 1 (by decide))
  · obtain ⟨_, _, _, steps, after, -, -, -, -, -, ran, -, loops, -⟩ := leaves 1 zeros other
    exact ⟨steps, after, ran, loops.trans stack⟩

end Machine

end LineBasic

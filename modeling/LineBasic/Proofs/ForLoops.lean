import LineBasic.Proofs.Rounds
import LineBasic.Proofs.SkippedBodies

/-!
# FOR loops

The variable of a FOR loop counts at its NEXT, and the loop is left when it exceeds the target.
Between the FOR and the NEXT anything may be executed, other loops on the same stack included.

`Machine.for_rounds` says that the body is executed once for each value from the start on: the
values count up by one, and the first that exceeds the target is the one with which the loop is
left. For this, each round has to come to a NEXT of the loop with the variable as the round has
started with it.
-/

namespace LineBasic

/-! ### NEXT -/

/-- Whether no name stands behind a NEXT, or one of the variable. -/
def Program.namesOnly (p : Program) (next : Reading) (letter : Letter) : Bool :=
  match (p.read next.stop).found with
  | .ok (.name text) => Letter.ofName? text = some letter
  | .ok _ => true
  | .error _ => false

namespace Statement

open Exec

variable {σ : Type} {p : Program} {machine : Machine σ} {frame : ForFrame} {outer : List ForFrame}
  {next : Reading} {letter : Letter}

theorem optionalVariable_of_namesOnly (machine : Machine σ) (names : p.namesOnly next letter) :
    ∃ named cursor, p.behindNext next = .ok cursor ∧
      optionalVariable p (machine.withCursor (.behind next)) =
        .ok named (machine.withCursor cursor) ∧
      named.all (· = letter) = true := by
  rw [Program.namesOnly] at names
  split at names
  next text found =>
    have known : Letter.ofName? text = some letter := of_decide_eq_true names
    have named := @optionalVariable_of_name σ p (machine.withCursor (.behind next)) text found
    simp only [Letter.ofName, known] at named
    refine ⟨some letter, _, ?_, named, by simp⟩
    simp only [Program.behindNext, found, Letter.ofName, known]
    rfl
  next token other found =>
    have unnamed :=
      @optionalVariable_of_other σ p (machine.withCursor (.behind next)) token found other
    refine ⟨none, .before (p.read next.stop), ?_, unnamed, rfl⟩
    rw [Program.behindNext, found]
    cases token with
    | name text => exact absurd rfl (other text)
    | _ => rfl
  next => cases names

/-- A NEXT of the innermost loop counts, and then leaves the loop or goes on with it. -/
theorem endFor_of_namesOnly (names : p.namesOnly next frame.letter)
    (stack : machine.state.forStack = frame :: outer) :
    ∃ cursor, p.behindNext next = .ok cursor ∧
      endFor p (machine.withCursor (.behind next)) =
        let value := machine.state.store.get frame.letter + 1.0
        let store := machine.state.store.set frame.letter value
        if value > frame.target then
          .ok .onward ⟨{ machine.state with cursor, store, forStack := outer }, machine.console⟩
        else
          .ok (.jump frame.resume)
            ⟨{ machine.state with cursor, store, forStack := frame :: outer }, machine.console⟩ := by
  obtain ⟨named, cursor, behind, ran, own⟩ := optionalVariable_of_namesOnly machine names
  refine ⟨cursor, behind, ?_⟩
  rw [endFor, bind_of_ok ran]
  have got : (getState : Exec σ State) (machine.withCursor cursor) =
      .ok (machine.withCursor cursor).state (machine.withCursor cursor) := rfl
  have top : (machine.withCursor cursor).state.forStack = frame :: outer := stack
  -- the frame is off the stack while the variable counts
  let counted : Machine σ :=
    ⟨{ machine.state with
        cursor
        store := machine.state.store.set frame.letter (machine.state.store.get frame.letter + 1.0)
        forStack := outer }, machine.console⟩
  rw [bind_of_ok got, top]
  dsimp only
  rw [if_pos own]
  change (if machine.state.store.get frame.letter + 1.0 > frame.target then pure Flow.onward
    else do
      modifyState fun state => { state with forStack := frame :: outer }
      pure (Flow.jump frame.resume) : Exec σ Flow) counted = _
  split <;> rfl

theorem forClause?_resume_le {store : Store} {offset : Nat} {start : Float}
    (clause : forClause? p store offset = some (start, frame)) : frame.resume ≤ p.length := by
  obtain ⟨_, behind, -, -, -, -, separator, targets⟩ := exists_of_forClause? clause
  -- the target follows the TO, which lies within the text
  have inside : (p.read behind).stop ≤ p.length := (Program.start_lt_stop separator (by simp)).2
  obtain ⟨last, ⟨tokens, passes, -⟩, resume⟩ := Expression.follows_of_valueAt? targets
  rw [← resume]
  exact passes.start_le_length inside

end Statement

namespace Machine

open Exec Statement LoopKind

variable {σ : Type} [Console σ] {p : Program} {config : Config} {machine : Machine σ}
  {frame : ForFrame} {outer : List ForFrame} {start : Float}

/-! ### The steps of a loop -/

omit [Console σ] in
/-- The machine in front of the body of a loop that a FOR has entered. -/
def enteredFor (p : Program) (frame : ForFrame) (start : Float) (machine : Machine σ) :
    Machine σ :=
  { machine with
    state := { machine.state with
      cursor := ⟨frame.resume, none⟩
      store := machine.state.store.set frame.letter start
      forStack := frame :: machine.state.forStack
      statementStart := (machine.state.reading p).stop } }

omit [Console σ] in
/-- The machine behind a NEXT, with the cursor and the loops that it leaves. -/
def countedFor (p : Program) (frame : ForFrame) (cursor : Cursor) (loops : List ForFrame)
    (machine : Machine σ) : Machine σ :=
  { machine with
    state := { machine.state with
      cursor
      store := machine.state.store.set frame.letter (machine.state.store.get frame.letter + 1.0)
      forStack := loops
      statementStart := (machine.state.reading p).stop } }

theorem step_of_enters (found : (machine.state.reading p).found = .ok (.keyword .FOR))
    (clause : forClause? p machine.state.store (machine.state.reading p).stop =
      some (start, frame))
    (enters : start ≤ frame.target) :
    step p config machine = .ok .moved (machine.enteredFor p frame start) := by
  have entered : enterFor p (machine.dispatched p) = .ok () (machine.enteredFor p frame start) := by
    have ran := @enterFor_of_clause σ p (machine.dispatched p) start frame clause
    rw [if_pos enters] at ran
    exact ran
  have performed : perform p config .FOR (machine.dispatched p) =
      .ok .onward (machine.enteredFor p frame start) := bind_of_ok entered
  rw [step_of_keyword found]
  exact bind_of_ok performed

theorem step_of_next (config : Config)
    (closes : counting.Closes p frame outer machine.state)
    (names : p.namesOnly (machine.state.reading p) frame.letter) :
    ∃ cursor, p.behindNext (machine.state.reading p) = .ok cursor ∧
      step p config machine =
        if machine.state.store.get frame.letter + 1.0 > frame.target then
          .ok .moved (machine.countedFor p frame cursor outer)
        else
          .ok (.jumped cursor.offset frame.resume)
            (machine.countedFor p frame (.jump p frame.resume) (frame :: outer)) := by
  obtain ⟨found, stack⟩ := closes_counting.mp closes
  obtain ⟨cursor, behind, ran⟩ :=
    @endFor_of_namesOnly σ p (machine.dispatched p) frame outer _ names stack
  refine ⟨cursor, behind, ?_⟩
  rw [step_of_keyword found]
  by_cases exceeds : machine.state.store.get frame.letter + 1.0 > frame.target
  · have performed : perform p config .NEXT (machine.dispatched p) =
        .ok .onward (machine.countedFor p frame cursor outer) := ran.trans (if_pos exceeds)
    rw [if_pos exceeds]
    exact bind_of_ok performed
  · have performed : perform p config .NEXT (machine.dispatched p) =
        .ok (.jump frame.resume) (machine.countedFor p frame cursor (frame :: outer)) :=
      ran.trans (if_neg exceeds)
    rw [if_neg exceeds]
    exact bind_of_ok performed

/-! ### The rounds of a loop -/

/-- The values that count up from a start. -/
def counted (start : Float) : Nat → Float
  | 0 => start
  | count + 1 => counted start count + 1.0

/-- The rounds of a loop that the FOR at the cursor enters. -/
def ForRound (p : Program) (config : Config) (machine : Machine σ) (frame : ForFrame)
    (start : Float) : Nat → Machine σ → Prop :=
  Round p config (counting.Closes p frame machine.state.forStack)
    (machine.enteredFor p frame start)

section Rounds

variable (comesBack : ∀ count entry, machine.ForRound p config frame start count entry →
  ∃ closing, RunsUntil p config (counting.Closes p frame machine.state.forStack) entry closing ∧
    p.namesOnly (closing.state.reading p) frame.letter ∧
    closing.state.store.get frame.letter = entry.state.store.get frame.letter)
  {count : Nat} {entry : Machine σ}

include comesBack

/-- A round starts with the loop on the stack, and counts one further than the one before. -/
theorem forRound_starts (inside : frame.resume ≤ p.length)
    (round : machine.ForRound p config frame start count entry) :
    entry.state.store.get frame.letter = counted start count ∧
      entry.state.cursor.offset = frame.resume ∧
      entry.state.forStack = frame :: machine.state.forStack := by
  induction round with
  | first => exact ⟨by simp [enteredFor, Store.get_set, counted], rfl, rfl⟩
  | @next count source target entry closing next earlier through back ih =>
    obtain ⟨value, -, -⟩ := ih
    obtain ⟨_, reaches, names, kept⟩ := comesBack _ _ earlier
    cases through.unique reaches
    obtain ⟨cursor, -, stepped⟩ := step_of_next config through.2 names
    rw [stepped] at back
    split at back
    next => cases back
    next =>
      cases back
      refine ⟨?_, Nat.min_eq_left inside, rfl⟩
      simp [countedFor, Store.get_set, counted, kept, value]

/-- A round ends at a NEXT, which leaves the loop when the next value exceeds the target. -/
theorem forRound_ends (inside : frame.resume ≤ p.length)
    (round : machine.ForRound p config frame start count entry) :
    ∃ closing cursor,
      RunsUntil p config (counting.Closes p frame machine.state.forStack) entry closing ∧
      closing.state.store.get frame.letter = counted start count ∧
      p.behindNext (closing.state.reading p) = .ok cursor ∧
      step p config closing =
        if counted start (count + 1) > frame.target then
          .ok .moved (closing.countedFor p frame cursor machine.state.forStack)
        else
          .ok (.jumped cursor.offset frame.resume)
            (closing.countedFor p frame (.jump p frame.resume)
              (frame :: machine.state.forStack)) := by
  obtain ⟨closing, reaches, names, kept⟩ := comesBack count entry round
  obtain ⟨value, -, -⟩ := forRound_starts comesBack inside round
  obtain ⟨cursor, behind, stepped⟩ := step_of_next config reaches.2 names
  have closingValue := kept.trans value
  rw [closingValue] at stepped
  exact ⟨closing, cursor, reaches, closingValue, behind, stepped⟩

/-- A loop that is entered goes through its body once for each value from the start up to the
target, whatever is executed there, as long as each round comes to a NEXT of the loop with the
variable as it was. The values count up by one; with the first that exceeds the target the run
goes on behind the last NEXT, with the loops from before. A loop around it has not come to its
own NEXT until then. -/
theorem for_rounds (found : (machine.state.reading p).found = .ok (.keyword .FOR))
    (clause : forClause? p machine.state.store (machine.state.reading p).stop =
      some (start, frame))
    (enters : start ≤ frame.target) :
    step p config machine = .ok .moved (machine.enteredFor p frame start) ∧
      (∀ count entry, machine.ForRound p config frame start count entry →
        entry.state.store.get frame.letter = counted start count ∧
          entry.state.cursor.offset = frame.resume ∧
          entry.state.forStack = frame :: machine.state.forStack) ∧
      (∀ count, (∃! entry, machine.ForRound p config frame start count entry) ↔
        ∀ earlier < count, ¬counted start (earlier + 1) > frame.target) ∧
      ∀ last, (∀ earlier < last, ¬counted start (earlier + 1) > frame.target) →
        counted start (last + 1) > frame.target →
          ∃ entry closing cursor steps after, machine.ForRound p config frame start last entry ∧
            RunsUntil p config (counting.Closes p frame machine.state.forStack) entry closing ∧
            step p config closing = .ok .moved after ∧
            loop p config steps machine = .ok none after ∧
            p.behindNext (closing.state.reading p) = .ok cursor ∧ after.state.cursor = cursor ∧
            after.state.forStack = machine.state.forStack ∧
            after.state.store =
              closing.state.store.set frame.letter (counted start (last + 1)) ∧
            ∀ around further last, machine.state.forStack = around :: further →
              RunsUntil p config (counting.Closes p around further) after last →
                RunsUntil p config (counting.Closes p around further) machine last := by
  have inside := forClause?_resume_le clause
  have entered : step p config machine = .ok .moved (machine.enteredFor p frame start) :=
    step_of_enters found clause enters
  have starts := fun count entry => @forRound_starts _ _ _ _ _ _ _ comesBack count entry inside
  have rounds : ∀ count, (∃! entry, machine.ForRound p config frame start count entry) ↔
      ∀ earlier < count, ¬counted start (earlier + 1) > frame.target := by
    intro count
    apply Round.existsUnique_iff
    intro count entry round
    obtain ⟨closing, cursor, reaches, -, -, stepped⟩ := forRound_ends comesBack inside round
    refine ⟨closing, reaches, ?_⟩
    rw [stepped]
    split
    next exceeds => simp [exceeds]
    next within => simp [within]
  refine ⟨entered, starts, rounds, ?_⟩
  intro last within exceeds
  obtain ⟨entry, round, -⟩ := (rounds last).mpr within
  obtain ⟨closing, cursor, reaches, value, behind, stepped⟩ :=
    forRound_ends comesBack inside round
  rw [if_pos exceeds] at stepped
  have loops : ∀ count entry, machine.ForRound p config frame start count entry →
      counting.stack entry.state = frame :: machine.state.forStack :=
    fun count entry round => (starts count entry round).2.2
  obtain ⟨steps, ran⟩ := loop_of_rounds loops entered round reaches stepped
  have opens : (machine.state.reading p).found ≠ .ok (.keyword .NEXT) := by simp [found]
  refine ⟨entry, closing, cursor, steps, _, round, reaches, stepped, ran, behind, rfl, rfl, ?_,
    fun _ _ _ => runsUntil_of_rounds loops entered round reaches stepped opens⟩
  rw [countedFor, value]
  rfl

end Rounds

end Machine

namespace Machine

open Statement LoopKind

/-- A loop whose body has a loop of each kind and a call. -/
def busyBody : Program := .ofString
  ("FOR I=1 TO 2\nFOR J=1 TO 2\nNEXT J\nREPEAT\nGOSUB 10\nUNTIL 1\nNEXT I\nEND\n" ++
    "10 RETURN\n")

/-- The body is executed with one and with two, and left with three behind the last NEXT. -/
theorem for_rounds_busyBody :
    ∃ first : Machine Buffer, start busyBody {} ⟨{}, {}⟩ = .ok () first ∧
      forClause? busyBody first.state.store 3 = some (1.0, ⟨8, 2.0, 12⟩) ∧
      (∃! entry, first.ForRound busyBody {} ⟨8, 2.0, 12⟩ 1.0 1 entry) ∧
      ¬(∃! entry, first.ForRound busyBody {} ⟨8, 2.0, 12⟩ 1.0 2 entry) ∧
      ∃ steps after, loop busyBody {} steps first = .ok none after ∧
        after.state.forStack = [] ∧ after.state.store.get 8 = 3.0 := by
  obtain ⟨_, first, started, checked⟩ := exists_of_succeedsWith (show
    succeedsWith (fun _ first =>
        (first.state.reading busyBody).found = .ok (.keyword .FOR) ∧
        (first.state.reading busyBody).stop = 3 ∧
        forClause? busyBody first.state.store 3 = some (1.0, ⟨8, 2.0, 12⟩) ∧
        first.state.forStack = [] ∧
        roundsPass busyBody {} (counting.Closes busyBody ⟨8, 2.0, 12⟩ [])
          (fun _ entry closing => busyBody.namesOnly (closing.state.reading busyBody) 8 &&
            closing.state.store.get 8 = entry.state.store.get 8)
          40 3 0 (first.enteredFor busyBody ⟨8, 2.0, 12⟩ 1.0) = true)
      (start busyBody {} (⟨{}, {}⟩ : Machine Buffer)) = true
    by decide +kernel)
  obtain ⟨found, stop, clause, stack, passed⟩ := of_decide_eq_true checked
  have comesBack : ∀ count entry, first.ForRound busyBody {} ⟨8, 2.0, 12⟩ 1.0 count entry →
      ∃ closing, RunsUntil busyBody {} (counting.Closes busyBody ⟨8, 2.0, 12⟩ first.state.forStack)
          entry closing ∧
        busyBody.namesOnly (closing.state.reading busyBody) 8 ∧
        closing.state.store.get 8 = entry.state.store.get 8 := by
    intro count entry round
    rw [ForRound, stack] at round
    rw [stack]
    obtain ⟨closing, reaches, test⟩ := Round.of_roundsPass passed round
    rw [Bool.and_eq_true] at test
    exact ⟨closing, reaches, test.1, of_decide_eq_true test.2⟩
  obtain ⟨-, -, rounds, leaves⟩ :=
    for_rounds comesBack found (stop ▸ clause) (by decide +kernel)
  have within : ∀ earlier < 1, ¬counted 1.0 (earlier + 1) > 2.0 := by decide +kernel
  have exceeds : counted 1.0 2 > 2.0 := by decide +kernel
  refine ⟨first, started, clause, (rounds 1).mpr within, ?_, ?_⟩
  · intro again
    exact (rounds 2).mp again 1 (by decide) exceeds
  · obtain ⟨_, _, _, steps, after, -, -, -, ran, -, -, loops, store, -⟩ := leaves 1 within exceeds
    refine ⟨steps, after, ran, loops.trans stack, ?_⟩
    rw [store, Store.get_set, if_pos rfl]
    decide +kernel

end Machine

end LineBasic

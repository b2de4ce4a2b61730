import LineBasic.Proofs.Cues
import LineBasic.Proofs.SkippedBodies

/-!
# Failed statements

A statement that fails leaves the machine as it was when the failure arose. Most statements have
changed nothing by then but the cursor, `Exec.FailsInPlace`: they make their changes last. There
are three exceptions. FOR gives its variable the start before it looks for TO and the target,
NEXT takes the innermost loop off before it compares the variable that is named, and UNTIL closes
its loop before it evaluates the condition.

`Machine.step_error_leaves` says what is left of the state in each case.
-/

namespace LineBasic

/-! ### What can be left behind -/

/-- The clause `variable = start` at an offset. -/
def Statement.startClause? (p : Program) (store : Store) (offset : Nat) :
    Option (Letter × Float) := do
  let letter ← letterAt? p offset
  let equal := p.read (p.read offset).stop
  guard (equal.found = .ok (.delimiter .equal))
  let (start, _) ← Expression.valueAt? p store equal.stop
  return (letter, start)

namespace State

/-- At the cursor there is a FOR whose start has a value. -/
def StartsFor (p : Program) (state : State) (letter : Letter) (start : Float) : Prop :=
  (state.reading p).found = .ok (.keyword .FOR) ∧
    Statement.startClause? p state.store (state.reading p).stop = some (letter, start)

/-- At the cursor there is a NEXT that names another variable than that of the innermost loop. -/
def MissesFor (p : Program) (state : State) (outer : List ForFrame) : Prop :=
  (state.reading p).found = .ok (.keyword .NEXT) ∧
    ∃ letter frame, Statement.letterAt? p (state.reading p).stop = some letter ∧
      state.forStack = frame :: outer ∧ letter ≠ frame.letter

/-- At the cursor there is an UNTIL whose condition has no value, within a loop. -/
def BreaksUntil (p : Program) (state : State) (outer : List Nat) : Prop :=
  (state.reading p).found = .ok (.keyword .UNTIL) ∧
    ∃ start, state.repeatStack = start :: outer ∧
      Expression.valueAt? p state.store (state.reading p).stop = none

/-- What a failed statement leaves of the state before it. -/
structure AfterFailure (p : Program) (before after : State) : Prop where
  labels : after.labels = before.labels
  gosubStack : after.gosubStack = before.gosubStack
  warnings : after.warnings = before.warnings
  started : ∀ letter start, before.StartsFor p letter start → ∀ other,
    after.store.get other = if other = letter then start else before.store.get other
  store : (∀ letter start, ¬before.StartsFor p letter start) → after.store = before.store
  missed : ∀ outer, before.MissesFor p outer → after.forStack = outer
  forStack : (∀ outer, ¬before.MissesFor p outer) → after.forStack = before.forStack
  broken : ∀ outer, before.BreaksUntil p outer → after.repeatStack = outer
  repeatStack : (∀ outer, ¬before.BreaksUntil p outer) → after.repeatStack = before.repeatStack

end State

/-! ### Failing in place -/

/-- All of the state but the cursor is the same. -/
def Machine.Moved {σ : Type} (before after : Machine σ) : Prop := before.state.Moved after.state

namespace Exec

variable {σ α β : Type} {p : Program}

/-- If the computation fails, it has only moved the cursor. -/
def FailsInPlace (exec : Exec σ α) : Prop :=
  ∀ machine, Leaves (fun _ _ => True) (fun _ after => machine.Moved after) (exec machine)

theorem kept_moved : Kept (@Machine.Moved σ) :=
  ⟨fun _ cursor => ⟨cursor, rfl⟩, State.Moved.trans⟩

theorem moved_onConsole (cause : String → Failure) (call : EStateM String σ α) :
    Keeps Machine.Moved (onConsole cause call) := by
  intro machine
  rw [onConsole]
  cases call machine.console with
  | ok value console => exact .ok (.refl _)
  | error reason console => exact .error (.refl _)

theorem Keeps.failsInPlace {exec : Exec σ α} (keeps : Keeps Machine.Moved exec) :
    FailsInPlace exec :=
  fun machine => (keeps machine).imp (fun _ _ _ => trivial) fun _ _ moved => moved

/-- A computation that only moves the cursor can come before one that fails in place. -/
theorem FailsInPlace.behind {exec : Exec σ α} {next : α → Exec σ β}
    (keeps : Keeps Machine.Moved exec) (goes : ∀ value, FailsInPlace (next value)) :
    FailsInPlace (exec >>= next) := by
  intro machine
  apply (keeps machine).bind
  intro value between moved
  exact (goes value between).imp (fun _ _ _ => trivial) fun _ _ further => moved.trans further

theorem FailsInPlace.andReturn {exec : Exec σ α} (fails : FailsInPlace exec) (value : β) :
    FailsInPlace (do let _ ← exec; return value) :=
  fun machine => (fails machine).bind fun _ _ _ => .ok trivial

theorem FailsInPlace.require {condition : Prop} [Decidable condition] {next : Unit → Exec σ α}
    (failure : Failure) (goes : FailsInPlace (next ())) :
    FailsInPlace (if condition then next () else throw failure >>= next) := by
  by_cases met : condition
  · rw [if_pos met]
    exact goes
  · rw [if_neg met]
    exact fun _ => .error (.refl _)

/-- Behind the last part that can fail, anything may be changed. -/
theorem failsInPlace_modifyState (change : State → State) :
    FailsInPlace (modifyState change : Exec σ Unit) :=
  fun _ => .ok trivial

theorem FailsInPlace.of_error {exec : Exec σ α} {machine after : Machine σ} {failure : Failure}
    (fails : FailsInPlace exec) (failed : exec machine = .error failure after) :
    machine.state.Moved after.state :=
  (fails machine).of_error failed

end Exec

namespace Statement

open Exec

variable {σ : Type} {p : Program} {config : Config}

theorem failsInPlace_assignment : FailsInPlace (assignment p : Exec σ Unit) :=
  .behind kept_moved.expectVariable fun _ => .behind kept_moved.expectEqualSign fun _ =>
    .behind kept_moved.evaluate fun _ => failsInPlace_modifyState _

theorem failsInPlace_callSub : FailsInPlace (callSub p : Exec σ Flow) :=
  .behind kept_moved.expectLabel fun _ => (failsInPlace_modifyState _).andReturn _

theorem failsInPlace_returnFromSub : FailsInPlace (returnFromSub : Exec σ Flow) := by
  apply FailsInPlace.behind kept_moved.getState
  intro state
  cases state.gosubStack with
  | nil => exact (kept_moved.throw _).failsInPlace
  | cons target rest => exact (failsInPlace_modifyState _).andReturn _

section Console

variable [Console σ]

theorem moved_write (text : String) : Keeps Machine.Moved (write text : Exec σ Unit) :=
  moved_onConsole _ _

/-- A line that is not a number is noted behind the message, which may fail to be written. -/
theorem failsInPlace_reject (line : String) :
    FailsInPlace (reject p config line : Exec σ Unit) :=
  .behind (moved_write _) fun _ => failsInPlace_modifyState _

theorem failsInPlace_input : FailsInPlace (input p config : Exec σ Unit) := by
  apply FailsInPlace.behind (kept_moved.prompt moved_write)
  intro _
  apply FailsInPlace.behind kept_moved.expectVariable
  intro letter
  -- the flush and the read
  apply FailsInPlace.behind (moved_onConsole _ _)
  intro _
  apply FailsInPlace.behind (moved_onConsole _ _)
  intro answer
  cases answer with
  | none => exact (kept_moved.throw _).failsInPlace
  | some line =>
    cases parsed : Number.parse? (Text.trim line.toList) with
    | some value =>
      simp only [parsed]
      exact failsInPlace_modifyState _
    | none =>
      simp only [parsed]
      exact failsInPlace_reject line

/-- All statements but FOR, NEXT and UNTIL fail in place. -/
theorem failsInPlace_perform {word : Keyword} (notFor : word ≠ .FOR) (notNext : word ≠ .NEXT)
    (notUntil : word ≠ .UNTIL) : FailsInPlace (perform p config word : Exec σ Flow) := by
  cases word with
  | FOR => exact absurd rfl notFor
  | NEXT => exact absurd rfl notNext
  | UNTIL => exact absurd rfl notUntil
  | PRINT => exact (kept_moved.printFrom moved_write _ _ _).failsInPlace.andReturn _
  | INPUT => exact failsInPlace_input.andReturn _
  | IF => exact kept_moved.branch.failsInPlace.andReturn _
  | REPEAT => exact (failsInPlace_modifyState _).andReturn _
  | THEN | TO | END => exact (kept_moved.pure _).failsInPlace
  | GOTO => exact kept_moved.goto.failsInPlace
  | GOSUB => exact failsInPlace_callSub
  | RETURN => exact failsInPlace_returnFromSub

end Console

/-! ### FOR, NEXT and UNTIL -/

section Loops

variable {machine after : Machine σ} {failure : Failure}

theorem startClause?_eq_some {store : Store} {offset : Nat} {letter : Letter} {start : Float} :
    startClause? p store offset = some (letter, start) ↔
      letterAt? p offset = some letter ∧
      (p.read (p.read offset).stop).found = .ok (.delimiter .equal) ∧
      ∃ behind, Expression.valueAt? p store (p.read (p.read offset).stop).stop =
        some (start, behind) := by
  rw [startClause?]
  constructor
  · intro clause
    obtain ⟨other, named, clause⟩ := Option.bind_eq_some_iff.mp clause
    obtain ⟨_, equal, clause⟩ := Option.bind_eq_some_iff.mp clause
    obtain ⟨⟨value, behind⟩, starts, returned⟩ := Option.bind_eq_some_iff.mp clause
    cases returned
    rw [Option.guard_eq_some'] at equal
    exact ⟨named, equal, behind, starts⟩
  · rintro ⟨named, equal, behind, starts⟩
    have passed := (Option.guard_eq_some' ()).mpr equal
    simp [named, passed, starts]

theorem failsInPlace_enterFrom (letter : Letter) (start : Float) :
    FailsInPlace (enterFrom p letter start : Exec σ Unit) := by
  apply FailsInPlace.behind kept_moved.next
  intro token
  apply FailsInPlace.require .toExpected
  apply FailsInPlace.behind kept_moved.evaluate
  intro target
  split
  · exact failsInPlace_modifyState _
  · exact (kept_moved.skipToNext _).failsInPlace

/-- A FOR that fails behind its start has given the variable that value. -/
theorem enterFor_error_of_start {letter : Letter} {start : Float}
    (failed : enterFor p machine = .error failure after)
    (clause : startClause? p machine.state.store machine.state.cursor.offset =
      some (letter, start)) :
    ∃ cursor, after.state =
      { machine.state with cursor, store := machine.state.store.set letter start } := by
  obtain ⟨named, equal, behind, starts⟩ := startClause?_eq_some.mp clause
  rw [enterFor_of_start named equal starts] at failed
  exact (failsInPlace_enterFrom letter start).of_error failed

/-- A FOR that fails before that has changed nothing. -/
theorem enterFor_error_of_none (failed : enterFor p machine = .error failure after)
    (clause : startClause? p machine.state.store machine.state.cursor.offset = none) :
    machine.state.Moved after.state := by
  rcases cases_of_bind_error failed with failed | ⟨letter, name, ranName, failed⟩
  · exact kept_moved.expectVariable.failsInPlace.of_error failed
  have toName : machine.Moved name := (kept_moved.expectVariable machine).of_ok ranName
  rcases cases_of_bind_error failed with failed | ⟨_, equal, ranEqual, failed⟩
  · exact toName.trans (kept_moved.expectEqualSign.failsInPlace.of_error failed)
  have toEqual : name.Moved equal := (kept_moved.expectEqualSign name).of_ok ranEqual
  rcases cases_of_bind_error failed with failed | ⟨start, _, ranStart, -⟩
  · exact (toName.trans toEqual).trans (kept_moved.evaluate.failsInPlace.of_error failed)
  -- otherwise the clause would have a start
  obtain ⟨text, found, known, rfl⟩ := expectVariable_eq_ok ranName
  obtain ⟨foundEqual, rfl⟩ := expectEqualSign_eq_ok ranEqual
  obtain ⟨_, evaluated, -⟩ := evaluate_eq_ok ranStart
  obtain ⟨_, _, -, -, -, value⟩ := Expression.evaluate_eq_ok evaluated
  have named : letterAt? p machine.state.cursor.offset = some letter := by
    rw [letterAt?, ← State.reading, found]
    exact known
  have started : startClause? p machine.state.store machine.state.cursor.offset =
      some (letter, start) := startClause?_eq_some.mpr ⟨named, foundEqual, _, value⟩
  rw [started] at clause
  cases clause

theorem optionalVariable_cases (machine : Machine σ) :
    (∃ cursor, optionalVariable p machine =
      .ok (letterAt? p machine.state.cursor.offset) (machine.withCursor cursor)) ∨
    letterAt? p machine.state.cursor.offset = none ∧ ∃ failure cursor,
      optionalVariable p machine = .error failure (machine.withCursor cursor) := by
  rw [letterAt?, ← State.reading]
  cases found : (machine.state.reading p).found with
  | error failure => exact .inr ⟨rfl, failure, _, bind_of_error (next_error found)⟩
  | ok token =>
    cases token with
    | name text =>
      have ran := optionalVariable_of_name found
      dsimp only
      cases known : Letter.ofName? text with
      | some letter =>
        simp only [Letter.ofName, known] at ran
        exact .inl ⟨_, ran⟩
      | none =>
        simp only [Letter.ofName, known] at ran
        exact .inr ⟨rfl, _, _, ran⟩
    | _ => exact .inl ⟨_, optionalVariable_of_other found (by simp)⟩

/-- A NEXT that fails has changed nothing, unless it names another variable than that of the
innermost loop. Then the loop is gone. -/
theorem endFor_error (failed : endFor p machine = .error failure after) :
    (∃ letter frame outer cursor, letterAt? p machine.state.cursor.offset = some letter ∧
      machine.state.forStack = frame :: outer ∧ letter ≠ frame.letter ∧
      after.state = { machine.state with cursor, forStack := outer }) ∨
    (∀ letter frame outer, letterAt? p machine.state.cursor.offset = some letter →
      machine.state.forStack = frame :: outer → letter = frame.letter) ∧
      machine.state.Moved after.state := by
  rcases optionalVariable_cases (p := p) machine with ⟨cursor, ran⟩ | ⟨unnamed, other, cursor, ran⟩
  · rw [endFor, bind_of_ok ran] at failed
    have got : (getState : Exec σ State) (machine.withCursor cursor) =
        .ok (machine.withCursor cursor).state (machine.withCursor cursor) := rfl
    rw [bind_of_ok got] at failed
    cases stack : (machine.withCursor cursor).state.forStack with
    | nil =>
      rw [stack] at failed
      cases failed
      have empty : machine.state.forStack = [] := stack
      refine .inr ⟨?_, cursor, rfl⟩
      simp [empty]
    | cons frame outer =>
      -- the loop is off the stack when the names are compared
      let taken : Machine σ := ⟨{ machine.state with cursor, forStack := outer }, machine.console⟩
      have takes : (modifyState fun state => { state with forStack := outer } : Exec σ Unit)
          (machine.withCursor cursor) = .ok () taken := rfl
      rw [stack] at failed
      dsimp only at failed
      rw [bind_of_ok takes] at failed
      by_cases own : (letterAt? p machine.state.cursor.offset).all (· = frame.letter) = true
      · -- what is left to do for the loop cannot fail
        rw [if_pos own] at failed
        rcases cases_of_bind_error failed with failed | ⟨state, _, -, failed⟩
        · cases failed
        rcases cases_of_bind_error failed with failed | ⟨_, _, -, failed⟩
        · cases failed
        split at failed <;> cases failed
      · rw [if_neg own] at failed
        have left : taken = after := (EStateM.Result.error.inj failed).2
        cases named : letterAt? p machine.state.cursor.offset with
        | none => simp [named] at own
        | some letter =>
          have other : letter ≠ frame.letter := by simpa [named] using own
          exact .inl ⟨letter, frame, outer, cursor, rfl, stack, other, left ▸ rfl⟩
  · rw [endFor, bind_of_error ran] at failed
    cases failed
    refine .inr ⟨?_, cursor, rfl⟩
    simp [unnamed]

/-- An UNTIL that fails within a loop has no value for its condition, and the loop is gone. -/
theorem endRepeat_error (failed : endRepeat p machine = .error failure after) :
    (∃ start outer cursor, machine.state.repeatStack = start :: outer ∧
      Expression.valueAt? p machine.state.store machine.state.cursor.offset = none ∧
      after.state = { machine.state with cursor, repeatStack := outer }) ∨
    machine.state.repeatStack = [] ∧ machine.state.Moved after.state := by
  have got : (getState : Exec σ State) machine = .ok machine.state machine := rfl
  rw [endRepeat, bind_of_ok got] at failed
  cases stack : machine.state.repeatStack with
  | nil =>
    rw [stack] at failed
    cases failed
    exact .inr ⟨rfl, .refl _⟩
  | cons start outer =>
    -- the loop is off the stack when the condition is evaluated
    let closed : Machine σ := ⟨{ machine.state with repeatStack := outer }, machine.console⟩
    have closes : (modifyState fun state => { state with repeatStack := outer } : Exec σ Unit)
        machine = .ok () closed := rfl
    rw [stack] at failed
    dsimp only at failed
    rw [bind_of_ok closes] at failed
    rcases cases_of_bind_error failed with failed | ⟨value, _, -, failed⟩
    · obtain ⟨cursor, moved⟩ := kept_moved.evaluate.failsInPlace.of_error failed
      refine .inl ⟨start, outer, cursor, rfl, ?_, moved⟩
      cases known : Expression.valueAt? p machine.state.store machine.state.cursor.offset with
      | none => rfl
      | some found =>
        -- a condition with a value would have been evaluated
        have ran : evaluate p closed = .ok found.1 (closed.withCursor ⟨found.2, none⟩) :=
          evaluate_of_valueAt? known
        rw [ran] at failed
        cases failed
    · split at failed <;> cases failed

end Loops

end Statement

/-! ### Statements -/

namespace State

variable {p : Program} {before after : State}

section Keyword

variable {word : Keyword} (found : (before.reading p).found = .ok (.keyword word))
include found

theorem not_startsFor (other : word ≠ .FOR) (letter : Letter) (start : Float) :
    ¬before.StartsFor p letter start := by
  rintro ⟨isFor, -⟩
  exact other (by simpa [found] using isFor)

theorem not_missesFor (other : word ≠ .NEXT) (outer : List ForFrame) :
    ¬before.MissesFor p outer := by
  rintro ⟨isNext, -⟩
  exact other (by simpa [found] using isNext)

theorem not_breaksUntil (other : word ≠ .UNTIL) (outer : List Nat) :
    ¬before.BreaksUntil p outer := by
  rintro ⟨isUntil, -⟩
  exact other (by simpa [found] using isUntil)

end Keyword

/-- Where no loop is in the way, a statement that fails in place leaves everything as it was. -/
theorem AfterFailure.of_moved (data : ∃ cursor place, after =
      { before with cursor, statementStart := place })
    (unstarted : ∀ letter start, ¬before.StartsFor p letter start)
    (met : ∀ outer, ¬before.MissesFor p outer) (whole : ∀ outer, ¬before.BreaksUntil p outer) :
    before.AfterFailure p after := by
  obtain ⟨cursor, place, rfl⟩ := data
  exact ⟨rfl, rfl, rfl, fun _ _ starts => absurd starts (unstarted _ _), fun _ => rfl,
    fun _ misses => absurd misses (met _), fun _ => rfl,
    fun _ breaks => absurd breaks (whole _), fun _ => rfl⟩

end State

namespace Machine

open Exec Statement

variable {σ : Type} {p : Program} {machine after : Machine σ} {failure : Failure}

theorem enterFor_leaves (found : (machine.state.reading p).found = .ok (.keyword .FOR))
    (failed : enterFor p (machine.dispatched p) = .error failure after) :
    machine.state.AfterFailure p after.state := by
  have met := State.not_missesFor found (by decide)
  have whole := State.not_breaksUntil found (by decide)
  cases clause : startClause? p machine.state.store (machine.state.reading p).stop with
  | none =>
    have unstarted : ∀ letter start, ¬machine.state.StartsFor p letter start := by
      rintro letter start ⟨-, started⟩
      simp [clause] at started
    obtain ⟨cursor, moved⟩ := enterFor_error_of_none failed clause
    exact .of_moved ⟨cursor, _, moved⟩ unstarted met whole
  | some started =>
    obtain ⟨letter, start⟩ := started
    obtain ⟨cursor, left⟩ := enterFor_error_of_start failed clause
    rw [left]
    refine ⟨rfl, rfl, rfl, ?_, ?_, fun _ misses => absurd misses (met _), fun _ => rfl,
      fun _ breaks => absurd breaks (whole _), fun _ => rfl⟩
    · rintro _ _ ⟨-, same⟩ other
      rw [clause] at same
      cases same
      exact Store.get_set ..
    · intro unstarted
      exact absurd ⟨found, clause⟩ (unstarted letter start)

theorem endFor_leaves (found : (machine.state.reading p).found = .ok (.keyword .NEXT))
    (failed : endFor p (machine.dispatched p) = .error failure after) :
    machine.state.AfterFailure p after.state := by
  have unstarted := State.not_startsFor found (by decide)
  have whole := State.not_breaksUntil found (by decide)
  rcases endFor_error failed with
    ⟨letter, frame, outer, cursor, named, stack, other, left⟩ | ⟨own, cursor, moved⟩
  · have misses : machine.state.MissesFor p outer := ⟨found, letter, frame, named, stack, other⟩
    rw [left]
    refine ⟨rfl, rfl, rfl, fun _ _ starts => absurd starts (unstarted _ _), fun _ => rfl, ?_,
      fun met => absurd misses (met outer), fun _ breaks => absurd breaks (whole _), fun _ => rfl⟩
    rintro further ⟨-, _, _, -, same, -⟩
    have stack : machine.state.forStack = frame :: outer := stack
    rw [stack] at same
    exact (List.cons.inj same).2
  · have met : ∀ outer, ¬machine.state.MissesFor p outer := by
      rintro outer ⟨-, letter, frame, named, stack, other⟩
      exact other (own letter frame outer named stack)
    exact .of_moved ⟨cursor, _, moved⟩ unstarted met whole

theorem endRepeat_leaves (found : (machine.state.reading p).found = .ok (.keyword .UNTIL))
    (failed : endRepeat p (machine.dispatched p) = .error failure after) :
    machine.state.AfterFailure p after.state := by
  have unstarted := State.not_startsFor found (by decide)
  have met := State.not_missesFor found (by decide)
  rcases endRepeat_error failed with
    ⟨start, outer, cursor, stack, unknown, left⟩ | ⟨empty, cursor, moved⟩
  · have breaks : machine.state.BreaksUntil p outer := ⟨found, start, stack, unknown⟩
    rw [left]
    refine ⟨rfl, rfl, rfl, fun _ _ starts => absurd starts (unstarted _ _), fun _ => rfl,
      fun _ misses => absurd misses (met _), fun _ => rfl, ?_,
      fun whole => absurd breaks (whole outer)⟩
    rintro further ⟨-, _, same, -⟩
    have stack : machine.state.repeatStack = start :: outer := stack
    rw [stack] at same
    exact (List.cons.inj same).2
  · have whole : ∀ outer, ¬machine.state.BreaksUntil p outer := by
      rintro outer ⟨-, start, stack, -⟩
      have empty : machine.state.repeatStack = [] := empty
      simp [empty] at stack
    exact .of_moved ⟨cursor, _, moved⟩ unstarted met whole

variable [Console σ] {config : Config}

theorem perform_error {word : Keyword}
    (found : (machine.state.reading p).found = .ok (.keyword word))
    (failed : step p config machine = .error failure after) :
    perform p config word (machine.dispatched p) = .error failure after := by
  rw [step_of_keyword found] at failed
  rcases cases_of_bind_error failed with failed | ⟨flow, _, -, failed⟩
  · exact failed
  · cases flow <;> cases failed

/-- A statement that fails leaves the labels, the calls and the warnings alone. The variables are
the same, but that of a FOR whose start has a value has that value. The loops are the same, but
the innermost one is gone if it is that of a NEXT that names another variable, or that of an UNTIL
whose condition has no value. -/
theorem step_error_leaves (failed : step p config machine = .error failure after) :
    machine.state.AfterFailure p after.state := by
  by_cases isFor : (machine.state.reading p).found = .ok (.keyword .FOR)
  · rcases cases_of_bind_error (perform_error isFor failed) with failed | ⟨_, _, -, returned⟩
    · exact enterFor_leaves isFor failed
    · cases returned
  by_cases isNext : (machine.state.reading p).found = .ok (.keyword .NEXT)
  · exact endFor_leaves isNext (perform_error isNext failed)
  by_cases isUntil : (machine.state.reading p).found = .ok (.keyword .UNTIL)
  · exact endRepeat_leaves isUntil (perform_error isUntil failed)
  -- all other statements fail in place
  suffices data : ∃ cursor place,
      after.state = { machine.state with cursor, statementStart := place } from
    .of_moved data (fun _ _ starts => isFor starts.1) (fun _ misses => isNext misses.1)
      fun _ breaks => isUntil breaks.1
  cases found : (machine.state.reading p).found with
  | error reason =>
    rw [step_of_error found] at failed
    cases failed
    exact ⟨_, _, rfl⟩
  | ok token =>
    cases token with
    | name text =>
      rw [step_of_name found] at failed
      obtain ⟨cursor, moved⟩ :=
        (failsInPlace_assignment.andReturn Progress.moved).of_error failed
      exact ⟨cursor, _, moved⟩
    | keyword word =>
      rw [found] at isFor isNext isUntil
      have inPlace : FailsInPlace (perform p config word : Exec σ Flow) :=
        failsInPlace_perform (by simpa using isFor) (by simpa using isNext) (by simpa using isUntil)
      obtain ⟨cursor, moved⟩ := inPlace.of_error (perform_error found failed)
      exact ⟨cursor, _, moved⟩
    | endOfProgram | delimiter | endOfLine | number | quoted =>
      rw [step, bind_of_ok (next_ok found)] at failed
      cases failed

/-- A FOR without a target, a NEXT of another loop and an UNTIL without a condition. -/
def brokenLoops : Program := .ofString "FOR A=5\nNEXT J\nUNTIL\n"

/-- A machine within a loop of each kind. -/
def withinLoops (offset : Nat) : Machine Buffer :=
  ⟨{ cursor := ⟨offset, none⟩, forStack := [⟨8, 3.0, 0⟩], repeatStack := [0] }, {}⟩

/-- The variable of the FOR is five, and the loop of the NEXT and that of the UNTIL are gone. -/
theorem step_error_leaves_brokenLoops :
    (∃ failure after, step brokenLoops {} (withinLoops 0) = .error failure after ∧
      (∀ letter, after.state.store.get letter =
        if letter = 0 then 5.0 else Store.initial.get letter) ∧
      after.state.forStack = [⟨8, 3.0, 0⟩] ∧ after.state.repeatStack = [0]) ∧
    (∃ failure after, step brokenLoops {} (withinLoops 8) = .error failure after ∧
      after.state.store = Store.initial ∧
      after.state.forStack = [] ∧ after.state.repeatStack = [0]) ∧
    ∃ failure after, step brokenLoops {} (withinLoops 15) = .error failure after ∧
      after.state.store = Store.initial ∧
      after.state.forStack = [⟨8, 3.0, 0⟩] ∧ after.state.repeatStack = [] := by
  have fails : ∀ offset ∈ [0, 8, 15],
      failsWith (fun _ _ => true) (step brokenLoops {} (withinLoops offset)) = true := by
    decide +kernel
  have isFor : ((withinLoops 0).state.reading brokenLoops).found = .ok (.keyword .FOR) := by
    decide +kernel
  have isNext : ((withinLoops 8).state.reading brokenLoops).found = .ok (.keyword .NEXT) := by
    decide +kernel
  have isUntil : ((withinLoops 15).state.reading brokenLoops).found = .ok (.keyword .UNTIL) := by
    decide +kernel
  refine ⟨?_, ?_, ?_⟩
  · obtain ⟨failure, after, failed, -⟩ := exists_of_failsWith (fails 0 (by simp))
    have leaves := step_error_leaves failed
    exact ⟨failure, after, failed, leaves.started 0 5.0 ⟨isFor, by decide +kernel⟩,
      leaves.forStack (State.not_missesFor isFor (by decide)),
      leaves.repeatStack (State.not_breaksUntil isFor (by decide))⟩
  · obtain ⟨failure, after, failed, -⟩ := exists_of_failsWith (fails 8 (by simp))
    have leaves := step_error_leaves failed
    exact ⟨failure, after, failed, leaves.store (State.not_startsFor isNext (by decide)),
      leaves.missed [] ⟨isNext, 9, ⟨8, 3.0, 0⟩, by decide +kernel, rfl, by decide⟩,
      leaves.repeatStack (State.not_breaksUntil isNext (by decide))⟩
  · obtain ⟨failure, after, failed, -⟩ := exists_of_failsWith (fails 15 (by simp))
    have leaves := step_error_leaves failed
    exact ⟨failure, after, failed, leaves.store (State.not_startsFor isUntil (by decide)),
      leaves.forStack (State.not_missesFor isUntil (by decide)),
      leaves.broken [] ⟨isUntil, 0, rfl, by decide +kernel⟩⟩

end Machine

end LineBasic

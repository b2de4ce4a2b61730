import LineBasic.Proofs.Effects
import LineBasic.Proofs.Shapes
import Mathlib.Data.Option.Basic

/-!
# Skipped bodies

A FOR whose start exceeds its target does not enter its body. It reads on behind its clause up
to the first NEXT, passes the variable named there, and the run goes on at that point.

Where FOR and NEXT are properly nested, the first NEXT is the one that closes the loop only if
the body has no loop of its own. Otherwise it is the NEXT of an inner loop, and the run goes on
within the body that should have been skipped.
-/

namespace LineBasic

/-! ### Nested loops in a list of tokens -/

/-- Each FOR among the tokens is followed by a NEXT of its own, and there is no other NEXT. -/
inductive Nested : List Token → Prop
  | nil : Nested []
  | other {token : Token} {tokens : List Token} (opens : token ≠ .keyword .FOR)
      (closes : token ≠ .keyword .NEXT) (rest : Nested tokens) : Nested (token :: tokens)
  | loop {body tokens : List Token} (inner : Nested body) (rest : Nested tokens) :
      Nested (.keyword .FOR :: (body ++ .keyword .NEXT :: tokens))

theorem Nested.next_mem_iff {tokens : List Token} (nested : Nested tokens) :
    .keyword .NEXT ∈ tokens ↔ .keyword .FOR ∈ tokens := by
  induction nested with
  | nil => simp
  | other opens closes _ ih => simp [ih, opens.symm, closes.symm]
  | loop => simp

namespace Program

variable {p : Program} {offset : Nat} {body : List Token} {closing : Reading}

/-- The first NEXT behind an offset from which a nested body and its NEXT are read. It closes the
body itself, unless the body has a loop. -/
theorem Passes.exists_first_next (passes : p.Passes (p.read offset) body closing)
    (nested : Nested body) (closes : closing.found = .ok (.keyword .NEXT)) :
    ∃ skipped first, p.Passes (p.read offset) skipped first ∧ .keyword .NEXT ∉ skipped ∧
      first.found = .ok (.keyword .NEXT) ∧
      if .keyword .FOR ∈ body then first.start < closing.start else first = closing := by
  by_cases inner : .keyword .FOR ∈ body
  · obtain ⟨skipped, rest, rfl, before⟩ :=
      List.eq_append_cons_of_mem (nested.next_mem_iff.mpr inner)
    obtain ⟨first, reached, behind⟩ := passes.split
    obtain ⟨place, rfl⟩ := reached.isReading ⟨offset, rfl⟩
    cases behind with
    | pass found going further =>
      refine ⟨skipped, p.read place, reached, before, found, ?_⟩
      rw [if_pos inner]
      -- the NEXT takes characters, and the rest of the body follows it
      have taken := (start_lt_stop found going).1
      have gap := p.le_start (p.read place).stop
      have forward := further.start_le ⟨_, rfl⟩
      omega
  · refine ⟨body, closing, passes, mt nested.next_mem_iff.mp inner, closes, ?_⟩
    rw [if_neg inner]

/-- The offset behind tokens that stand at an offset, if they do. -/
def behindTokens? (p : Program) : List Token → (offset : Nat) → Option Nat
  | [], offset => some offset
  | token :: tokens, offset =>
    if (p.read offset).found = .ok token ∧ token ≠ .endOfProgram then
      p.behindTokens? tokens (p.read offset).stop
    else none

theorem passes_of_behindTokens? {tokens : List Token} {behind : Nat}
    (known : p.behindTokens? tokens offset = some behind) :
    p.Passes (p.read offset) tokens (p.read behind) := by
  induction tokens generalizing offset with
  | nil =>
    cases known
    exact .done _
  | cons token tokens ih =>
    rw [behindTokens?] at known
    split at known
    next here => exact .pass here.1 here.2 (ih known)
    next => cases known

/-- The cursor behind a NEXT and the variable that is named with it, if one is. -/
def behindNext (p : Program) (next : Reading) : Except Failure Cursor :=
  let following := p.read next.stop
  match following.found with
  | .ok (.name text) => (Letter.ofName text).map fun _ => .behind following
  | .ok _ => .ok (.before following)
  | .error failure => .error failure

end Program

/-! ### A clause and what follows it -/

namespace Statement

open Exec

variable {σ : Type} {p : Program} {machine : Machine σ} {store : Store} {start : Float}
  {frame : ForFrame}

theorem exists_of_forClause? {offset : Nat} (clause : forClause? p store offset = some (start, frame)) :
    ∃ text behind, (p.read offset).found = .ok (.name text) ∧
      Letter.ofName? text = some frame.letter ∧
      (p.read (p.read offset).stop).found = .ok (.delimiter .equal) ∧
      Expression.valueAt? p store (p.read (p.read offset).stop).stop = some (start, behind) ∧
      (p.read behind).found = .ok (.keyword .TO) ∧
      Expression.valueAt? p (store.set frame.letter start) (p.read behind).stop =
        some (frame.target, frame.resume) := by
  unfold forClause? at clause
  dsimp only at clause
  split at clause
  next text name =>
    obtain ⟨letter, known, clause⟩ := Option.bind_eq_some_iff.mp clause
    obtain ⟨_, equal, clause⟩ := Option.bind_eq_some_iff.mp clause
    obtain ⟨⟨value, behind⟩, starts, clause⟩ := Option.bind_eq_some_iff.mp clause
    obtain ⟨_, separator, clause⟩ := Option.bind_eq_some_iff.mp clause
    obtain ⟨⟨target, resume⟩, targets, returned⟩ := Option.bind_eq_some_iff.mp clause
    cases returned
    rw [Option.guard_eq_some'] at equal separator
    exact ⟨text, behind, name, known, equal, starts, separator, targets⟩
  next => cases clause

theorem expectEqualSign_of_equal
    (equal : (machine.state.reading p).found = .ok (.delimiter .equal)) :
    expectEqualSign p machine =
      .ok () (machine.withCursor (.behind (machine.state.reading p))) := by
  rw [expectEqualSign, bind_of_ok (next_ok equal)]
  rfl

/-- What a FOR does when its variable has the start. -/
def enterFrom (p : Program) (letter : Letter) (start : Float) : Exec σ Unit := do
  unless (← next p) = .keyword .TO do throw .toExpected
  let target ← evaluate p
  if start ≤ target then
    modifyState fun state =>
      { state with forStack := ⟨letter, target, state.cursor.offset⟩ :: state.forStack }
  else skipToNext p (p.length + 1)

/-- A FOR gives its variable the start before it looks any further. -/
theorem enterFor_of_start {letter : Letter} {behind : Nat}
    (named : letterAt? p machine.state.cursor.offset = some letter)
    (equal : (p.read (machine.state.reading p).stop).found = .ok (.delimiter .equal))
    (starts : Expression.valueAt? p machine.state.store
      (p.read (machine.state.reading p).stop).stop = some (start, behind)) :
    enterFor p machine =
      enterFrom p letter start
        ⟨{ machine.state with
            cursor := ⟨behind, none⟩
            store := machine.state.store.set letter start }, machine.console⟩ := by
  have readName : expectVariable p machine = .ok letter
      (machine.withCursor (.behind (machine.state.reading p))) := expectVariable_ok named
  have readEqual : expectEqualSign p (machine.withCursor (.behind (machine.state.reading p))) =
      .ok () (machine.withCursor (.behind (p.read (machine.state.reading p).stop))) :=
    expectEqualSign_of_equal equal
  have readStart : evaluate p
      (machine.withCursor (.behind (p.read (machine.state.reading p).stop))) =
      .ok start (machine.withCursor ⟨behind, none⟩) := evaluate_of_valueAt? starts
  rw [enterFor, bind_of_ok readName, bind_of_ok readEqual, bind_of_ok readStart]
  rfl

/-- Behind its clause, a FOR has given the variable its start. It enters the body then, or skips. -/
theorem enterFor_of_clause
    (clause : forClause? p machine.state.store machine.state.cursor.offset = some (start, frame)) :
    enterFor p machine =
      (if start ≤ frame.target then
        modifyState fun state => { state with forStack := frame :: state.forStack }
      else skipToNext p (p.length + 1))
      { machine with
        state := { machine.state with
          cursor := ⟨frame.resume, none⟩
          store := machine.state.store.set frame.letter start } } := by
  obtain ⟨text, behind, name, known, equal, starts, separator, targets⟩ :=
    exists_of_forClause? clause
  have named : letterAt? p machine.state.cursor.offset = some frame.letter := by
    rw [letterAt?, name]
    exact known
  -- the variable has its start already when the target is evaluated
  let assigned (cursor : Cursor) : Machine σ :=
    ⟨{ machine.state with cursor, store := machine.state.store.set frame.letter start },
      machine.console⟩
  have readTo : next p (assigned ⟨behind, none⟩) =
      .ok (.keyword .TO) (assigned (.behind (p.read behind))) :=
    next_ok separator
  have readTarget : evaluate p (assigned (.behind (p.read behind))) =
      .ok frame.target (assigned ⟨frame.resume, none⟩) :=
    evaluate_of_valueAt? targets
  rw [enterFor_of_start named equal starts, enterFrom, bind_of_ok readTo]
  simp only [if_true]
  rw [bind_of_ok readTarget]
  split <;> rfl

/-- A FOR whose start is not at most its target gives the variable its start, and then skips. -/
theorem enterFor_of_exceeds
    (clause : forClause? p machine.state.store machine.state.cursor.offset = some (start, frame))
    (exceeds : ¬start ≤ frame.target) :
    enterFor p machine = skipToNext p (p.length + 1)
      { machine with
        state := { machine.state with
          cursor := ⟨frame.resume, none⟩
          store := machine.state.store.set frame.letter start } } := by
  rw [enterFor_of_clause clause, if_neg exceeds]

/-- Up to the first NEXT, tokens are passed whatever they are. -/
theorem skipToNext_of_passes {tokens : Nat} {skipped : List Token} {first : Reading}
    (passes : p.Passes (machine.state.reading p) skipped first)
    (before : .keyword .NEXT ∉ skipped) (found : first.found = .ok (.keyword .NEXT))
    (room : skipped.length < tokens) :
    skipToNext p tokens machine =
      discard (optionalVariable p) (machine.withCursor (.behind first)) := by
  induction tokens generalizing machine skipped with
  | zero => omega
  | succ tokens ih =>
    rw [skipToNext]
    cases passes with
    | done =>
      rw [bind_of_ok (next_ok found)]
    | @pass _ _ token others here going rest =>
      rw [bind_of_ok (next_ok here)]
      simp only [List.mem_cons, not_or, List.length_cons] at before room
      have further : skipToNext p tokens
          (machine.withCursor (.behind (machine.state.reading p))) =
          discard (optionalVariable p) (machine.withCursor (.behind first)) :=
        ih rest before.2 (by omega)
      split
      · exact absurd rfl before.1
      · exact absurd rfl going
      · exact further

theorem optionalVariable_of_name {text : String}
    (name : (machine.state.reading p).found = .ok (.name text)) :
    optionalVariable p machine =
      match Letter.ofName text with
      | .ok letter => .ok (some letter) (machine.withCursor (.behind (machine.state.reading p)))
      | .error failure => .error failure (machine.withCursor (.behind (machine.state.reading p))) := by
  rw [optionalVariable, bind_of_ok (next_ok name)]
  cases known : Letter.ofName text <;> simp only [known] <;> rfl

theorem optionalVariable_of_other {token : Token}
    (found : (machine.state.reading p).found = .ok token) (other : ∀ text, token ≠ .name text) :
    optionalVariable p machine =
      .ok none (machine.withCursor (.before (machine.state.reading p))) := by
  rw [optionalVariable, bind_of_ok (next_ok found)]
  cases token with
  | name text => exact absurd rfl (other text)
  | _ => rfl

/-- Behind a NEXT the variable that may be named is passed. -/
theorem optionalVariable_behind (machine : Machine σ) (next : Reading) :
    discard (optionalVariable p) (machine.withCursor (.behind next)) =
      match p.behindNext next with
      | .ok cursor => .ok () (machine.withCursor cursor)
      | .error failure => .error failure (machine.withCursor (.behind (p.read next.stop))) := by
  rw [Program.behindNext]
  change (optionalVariable p >>= fun _ => pure ()) _ = _
  cases found : (p.read next.stop).found with
  | error failure =>
    have failed : optionalVariable p (machine.withCursor (.behind next)) =
        .error failure (machine.withCursor (.behind (p.read next.stop))) :=
      bind_of_error (next_error found)
    rw [bind_of_error failed]
  | ok token =>
    cases token with
    | name text =>
      have named := @optionalVariable_of_name σ p (machine.withCursor (.behind next)) text found
      cases known : Letter.ofName text with
      | ok letter =>
        rw [known] at named
        rw [bind_of_ok named]
        simp only [known]
        rfl
      | error failure =>
        rw [known] at named
        rw [bind_of_error named]
        simp only [known]
        rfl
    | _ =>
      have unnamed := @optionalVariable_of_other σ p (machine.withCursor (.behind next)) _
        found (by simp)
      rw [bind_of_ok unnamed]
      rfl

end Statement

/-! ### The step of a FOR that skips -/

namespace Machine

variable {σ : Type} {p : Program} {config : Config} {machine : Machine σ} {start : Float}
  {frame : ForFrame}

/-- The machine once a FOR has given its variable a start and has put the cursor elsewhere. Its
stacks are those from before. -/
def skippedTo (p : Program) (frame : ForFrame) (start : Float) (cursor : Cursor)
    (machine : Machine σ) : Machine σ :=
  { machine with
    state := { machine.state with
      cursor
      store := machine.state.store.set frame.letter start
      statementStart := (machine.state.reading p).stop } }

variable [Console σ]

theorem step_of_first_next {skipped : List Token} {first : Reading}
    (found : (machine.state.reading p).found = .ok (.keyword .FOR))
    (clause : Statement.forClause? p machine.state.store (machine.state.reading p).stop =
      some (start, frame))
    (exceeds : start > frame.target) (passes : p.Passes (p.read frame.resume) skipped first)
    (before : .keyword .NEXT ∉ skipped) (isNext : first.found = .ok (.keyword .NEXT)) :
    step p config machine =
      match p.behindNext first with
      | .ok cursor => .ok .moved (machine.skippedTo p frame start cursor)
      | .error failure =>
        .error failure (machine.skippedTo p frame start (.behind (p.read first.stop))) := by
  have room : skipped.length < p.length + 1 := by
    have := passes.length_le
    omega
  have skips : Statement.enterFor p (machine.dispatched p) =
      match p.behindNext first with
      | .ok cursor => .ok () (machine.skippedTo p frame start cursor)
      | .error failure =>
        .error failure (machine.skippedTo p frame start (.behind (p.read first.stop))) :=
    calc Statement.enterFor p (machine.dispatched p)
      _ = Statement.skipToNext p (p.length + 1) (machine.skippedTo p frame start ⟨frame.resume, none⟩) :=
        Statement.enterFor_of_exceeds clause (Number.not_le_of_gt exceeds)
      _ = discard (Statement.optionalVariable p) (machine.skippedTo p frame start (.behind first)) :=
        Statement.skipToNext_of_passes passes before isNext room
      _ = _ := Statement.optionalVariable_behind (machine.skippedTo p frame start (.behind first)) first
  rw [step_of_keyword found]
  cases behind : p.behindNext first with
  | ok cursor =>
    rw [behind] at skips
    have performed : Statement.perform p config .FOR (machine.dispatched p) =
        .ok .onward (machine.skippedTo p frame start cursor) := bind_of_ok skips
    exact bind_of_ok performed
  | error failure =>
    rw [behind] at skips
    have failed : Statement.perform p config .FOR (machine.dispatched p) =
        .error failure (machine.skippedTo p frame start (.behind (p.read first.stop))) :=
      bind_of_error skips
    exact bind_of_error failed

/-- A FOR whose start exceeds its target, with a nested body behind its clause and the NEXT that
closes it: the run goes on behind the first NEXT. That is the closing one if the body has no loop
of its own, and else a NEXT within the body. -/
theorem step_of_skippedBody {body : List Token} {closing : Reading}
    (found : (machine.state.reading p).found = .ok (.keyword .FOR))
    (clause : Statement.forClause? p machine.state.store (machine.state.reading p).stop =
      some (start, frame))
    (exceeds : start > frame.target) (passes : p.Passes (p.read frame.resume) body closing)
    (nested : Nested body) (closes : closing.found = .ok (.keyword .NEXT)) :
    ∃ skipped first, p.Passes (p.read frame.resume) skipped first ∧ .keyword .NEXT ∉ skipped ∧
      first.found = .ok (.keyword .NEXT) ∧
      (if .keyword .FOR ∈ body then first.start < closing.start else first = closing) ∧
      step p config machine =
        match p.behindNext first with
        | .ok cursor => .ok .moved (machine.skippedTo p frame start cursor)
        | .error failure =>
          .error failure (machine.skippedTo p frame start (.behind (p.read first.stop))) := by
  obtain ⟨skipped, first, passed, before, isNext, place⟩ := passes.exists_first_next nested closes
  exact ⟨skipped, first, passed, before, isNext, place,
    step_of_first_next found clause exceeds passed before isNext⟩

/-- The second line opens a loop within the body of the first. -/
def innerLoop : Program := .ofString "FOR I=2 TO 1\nFOR J=1 TO 1\nNEXT\nPRINT 1\nNEXT\n"

def innerLoopBody : List Token :=
  [.endOfLine, .keyword .FOR, .name "J", .delimiter .equal, .number "1", .keyword .TO, .number "1",
    .endOfLine, .keyword .NEXT, .endOfLine, .keyword .PRINT, .number "1", .endOfLine]

theorem nested_innerLoopBody : Nested innerLoopBody := by
  have inner : Nested [.name "J", .delimiter .equal, .number "1", .keyword .TO, .number "1",
      .endOfLine] := by
    repeat' constructor
    all_goals decide
  have rest : Nested [.endOfLine, .keyword .PRINT, .number "1", .endOfLine] := by
    repeat' constructor
    all_goals decide
  exact .other (by decide) (by decide) (.loop inner rest)

theorem passes_innerLoopBody :
    innerLoop.Passes (innerLoop.read 12) innerLoopBody (innerLoop.read 39) :=
  Program.passes_of_behindTokens? (by decide +kernel)

/-- The FOR of the first line goes on behind a NEXT in front of the one that closes it. -/
theorem step_of_skippedBody_innerLoop :
    ∃ start frame, Statement.forClause? innerLoop .initial 3 = some (start, frame) ∧
      start > frame.target ∧
      innerLoop.Passes (innerLoop.read frame.resume) innerLoopBody (innerLoop.read 39) ∧
      ∃ skipped first, innerLoop.Passes (innerLoop.read frame.resume) skipped first ∧
        .keyword .NEXT ∉ skipped ∧ first.found = .ok (.keyword .NEXT) ∧
        first.start < (innerLoop.read 39).start ∧
        step innerLoop {} (⟨{}, {}⟩ : Machine Buffer) =
          match innerLoop.behindNext first with
          | .ok cursor => .ok .moved (skippedTo innerLoop frame start cursor ⟨{}, {}⟩)
          | .error failure =>
            .error failure
              (skippedTo innerLoop frame start (.behind (innerLoop.read first.stop)) ⟨{}, {}⟩) := by
  obtain ⟨⟨start, frame⟩, clause, known⟩ := Option.map_eq_some_iff.mp (show
    (Statement.forClause? innerLoop .initial 3).map
      (fun clause => (clause.1, clause.2.target, clause.2.resume)) = some (2.0, 1.0, 12)
    by decide +kernel)
  simp only [Prod.mk.injEq] at known
  obtain ⟨starts, targets, resumes⟩ := known
  have exceeds : start > frame.target := by
    rw [starts, targets]
    decide +kernel
  have passes : innerLoop.Passes (innerLoop.read frame.resume) innerLoopBody (innerLoop.read 39) := by
    rw [resumes]
    exact passes_innerLoopBody
  obtain ⟨skipped, first, passed, before, isNext, place, stepped⟩ :=
    @step_of_skippedBody Buffer innerLoop {} ⟨{}, {}⟩ start frame _ innerLoopBody
      (innerLoop.read 39) (by decide +kernel) clause exceeds passes nested_innerLoopBody
      (by decide +kernel)
  rw [if_pos (by decide)] at place
  exact ⟨start, frame, clause, exceeds, passes, skipped, first, passed, before, isNext, place,
    stepped⟩

/-- The body of the first loop is entered behind its inner loop, and its NEXT has no FOR. -/
theorem run_innerLoop : ∃ after : Machine Buffer,
    run innerLoop {} 9 ⟨{}, {}⟩ = .error .nextWithoutFor after ∧
      after.console.output = "1\n" := by
  obtain ⟨failure, after, failed, checked⟩ := exists_of_failsWith (show
    failsWith (fun failure after => failure = .nextWithoutFor ∧ after.console.output = "1\n")
      (run innerLoop {} 9 (⟨{}, {}⟩ : Machine Buffer)) = true
    by decide +kernel)
  obtain ⟨rfl, output⟩ := of_decide_eq_true checked
  exact ⟨after, failed, output⟩

end Machine

end LineBasic

import LineBasic.Proofs.Statements
import LineBasic.Run

/-!
# What a step does

`Effect` lists all that a step of a run can do to the state if it succeeds, one case
for each way a statement can end. What the statements read besides their first token
is given by where it stands: a label is the token behind GOSUB, a condition is the
expression behind UNTIL, and a FOR clause is taken apart by `forClause?`.

`step_effect` says that a step has one of these effects. What a run keeps can then be
read off the list, without a look at the statements.
-/

namespace LineBasic

/-! ### Parts of control statements -/

/-- The value of the expression at an offset, and where the token behind it starts. -/
def Expression.valueAt? (p : Program) (store : Store) (offset : Nat) : Option (Float × Nat) :=
  match evaluate p store { offset } with
  | .ok value cursor => some (value, cursor.offset)
  | .error _ _ => none

theorem Expression.evaluate_eq_ok {p : Program} {store : Store} {cursor after : Cursor}
    {value : Float} (evaluated : evaluate p store cursor = .ok value after) :
    ∃ last token, p.Follows (p.read cursor.offset) last ∧ last.found = .ok token ∧
      after = .before last ∧ valueAt? p store cursor.offset = some (value, last.start) := by
  obtain ⟨last, token, follows, found, rfl⟩ := (evaluate_follows p store cursor).of_ok evaluated
  refine ⟨last, token, follows, found, rfl, ?_⟩
  -- an evaluation does not look at the token that was read before it
  have fresh : evaluate p store { offset := cursor.offset } = .ok value (.before last) := evaluated
  rw [valueAt?, fresh]
  rfl

theorem Expression.evaluate_of_valueAt? {p : Program} {store : Store} {cursor : Cursor}
    {value : Float} {behind : Nat}
    (known : valueAt? p store cursor.offset = some (value, behind)) :
    evaluate p store cursor = .ok value ⟨behind, none⟩ := by
  rw [valueAt?] at known
  split at known
  next found after evaluated =>
    obtain ⟨last, token, -, -, rfl, -⟩ := evaluate_eq_ok evaluated
    cases known
    exact evaluated
  next => cases known

/-- What has a value is followed by a token on the same line. -/
theorem Expression.follows_of_valueAt? {p : Program} {store : Store} {offset behind : Nat}
    {value : Float} (known : valueAt? p store offset = some (value, behind)) :
    ∃ last, p.Follows (p.read offset) last ∧ last.start = behind := by
  have evaluated : evaluate p store { offset } = .ok value ⟨behind, none⟩ :=
    evaluate_of_valueAt? known
  obtain ⟨last, _, follows, -, stops, -⟩ := evaluate_eq_ok evaluated
  exact ⟨last, follows, (congrArg Cursor.offset stops).symm⟩

/-- Its value is where an evaluation at the cursor comes to. -/
theorem Exec.evaluate_of_valueAt? {σ : Type} {p : Program} {machine : Machine σ} {value : Float}
    {behind : Nat} (known : Expression.valueAt? p machine.state.store machine.state.cursor.offset =
      some (value, behind)) :
    evaluate p machine = .ok value (machine.withCursor ⟨behind, none⟩) := by
  rw [evaluate_eq, Expression.evaluate_of_valueAt? known]

/-- The variable that is named at an offset. -/
def Statement.letterAt? (p : Program) (offset : Nat) : Option Letter :=
  match (p.read offset).found with
  | .ok (.name text) => Letter.ofName? text
  | _ => none

/-- The clause `variable = start TO target` at an offset, as the start and the frame of the
loop. The loop resumes at the token behind the clause. The variable has its start already
when the target is evaluated. -/
def Statement.forClause? (p : Program) (store : Store) (offset : Nat) :
    Option (Float × ForFrame) := do
  let name := p.read offset
  let letter ← match name.found with
    | .ok (.name text) => Letter.ofName? text
    | _ => none
  let equal := p.read name.stop
  guard (equal.found = .ok (.delimiter .equal))
  let (start, behind) ← Expression.valueAt? p store equal.stop
  let separator := p.read behind
  guard (separator.found = .ok (.keyword .TO))
  let (target, resume) ← Expression.valueAt? p (store.set letter start) separator.stop
  return (start, ⟨letter, target, resume⟩)

/-- The statements that open and close loops and calls. -/
def Keyword.isControl : Keyword → Bool
  | GOSUB | RETURN | FOR | NEXT | REPEAT | UNTIL => true
  | _ => false

/-! ### Effects -/

/-- What a step that succeeds makes of the state, and how it goes on. -/
inductive Effect (p : Program) (before : State) : Progress → State → Prop
  /-- A token that starts no statement, or a statement that leaves loops and calls alone. -/
  | onward {token : Token} {after : State} (found : (before.reading p).found = .ok token)
      (tame : ∀ word, token = .keyword word → word.isControl = false)
      (same : before.SameStacks after) (ahead : p.Ahead (before.reading p) after.cursor) :
      Effect p before .moved after
  | finished {token : Token} {completion : Completion} {after : State}
      (found : (before.reading p).found = .ok token)
      (tame : ∀ word, token = .keyword word → word.isControl = false)
      (same : before.SameStacks after) (ahead : p.Ahead (before.reading p) after.cursor) :
      Effect p before (.finished completion) after
  /-- An IF that does not hold. -/
  | skippedLine {after : State} (found : (before.reading p).found = .ok (.keyword .IF))
      (same : before.SameStacks after)
      (cursor : after.cursor =
        ⟨before.cursor.offset + lineWidth (p.rest before.cursor.offset), none⟩) :
      Effect p before .moved after
  /-- GOTO. -/
  | jumped {label : String} {source target : Nat} {after : State}
      (found : (before.reading p).found = .ok (.keyword .GOTO))
      (known : before.labels.find? label = some target) (same : before.SameStacks after)
      (cursor : after.cursor = .jump p target) : Effect p before (.jumped source target) after
  | called {token : Token} {label : String} {target : Nat}
      (found : (before.reading p).found = .ok (.keyword .GOSUB))
      (named : (p.read (before.reading p).stop).found = .ok token)
      (known : before.labels.find? label = some target) :
      Effect p before (.jumped (p.read (before.reading p).stop).stop target)
        { before with
          cursor := .jump p target
          gosubStack := (p.read (before.reading p).stop).stop :: before.gosubStack
          statementStart := (before.reading p).stop }
  | returned {target : Nat} {rest : List Nat}
      (found : (before.reading p).found = .ok (.keyword .RETURN))
      (stack : before.gosubStack = target :: rest) :
      Effect p before (.jumped (before.reading p).stop target)
        { before with
          cursor := .jump p target
          gosubStack := rest
          statementStart := (before.reading p).stop }
  /-- A FOR whose body is entered. -/
  | entered {start : Float} {frame : ForFrame}
      (found : (before.reading p).found = .ok (.keyword .FOR))
      (clause : Statement.forClause? p before.store (before.reading p).stop = some (start, frame))
      (enters : start ≤ frame.target) (ahead : p.Ahead (before.reading p) ⟨frame.resume, none⟩) :
      Effect p before .moved
        { before with
          cursor := ⟨frame.resume, none⟩
          store := before.store.set frame.letter start
          forStack := frame :: before.forStack
          statementStart := (before.reading p).stop }
  | skippedBody {start : Float} {frame : ForFrame} {cursor : Cursor}
      (found : (before.reading p).found = .ok (.keyword .FOR))
      (clause : Statement.forClause? p before.store (before.reading p).stop = some (start, frame))
      (exceeds : ¬start ≤ frame.target) (ahead : p.Ahead (before.reading p) cursor) :
      Effect p before .moved
        { before with
          cursor
          store := before.store.set frame.letter start
          statementStart := (before.reading p).stop }
  /-- A NEXT after which the variable exceeds the target. -/
  | leftFor {frame : ForFrame} {outer : List ForFrame} {cursor : Cursor}
      (found : (before.reading p).found = .ok (.keyword .NEXT))
      (stack : before.forStack = frame :: outer)
      (exceeds : before.store.get frame.letter + 1.0 > frame.target)
      (ahead : p.Ahead (before.reading p) cursor) :
      Effect p before .moved
        { before with
          cursor
          store := before.store.set frame.letter (before.store.get frame.letter + 1.0)
          forStack := outer
          statementStart := (before.reading p).stop }
  | repeatedFor {frame : ForFrame} {outer : List ForFrame} {source : Nat}
      (found : (before.reading p).found = .ok (.keyword .NEXT))
      (stack : before.forStack = frame :: outer)
      (within : ¬before.store.get frame.letter + 1.0 > frame.target) :
      Effect p before (.jumped source frame.resume)
        { before with
          cursor := .jump p frame.resume
          store := before.store.set frame.letter (before.store.get frame.letter + 1.0)
          statementStart := (before.reading p).stop }
  /-- REPEAT. -/
  | opened (found : (before.reading p).found = .ok (.keyword .REPEAT)) :
      Effect p before .moved
        { before with
          cursor := .behind (before.reading p)
          repeatStack := (before.reading p).stop :: before.repeatStack
          statementStart := (before.reading p).stop }
  /-- An UNTIL that holds. -/
  | leftRepeat {start resume : Nat} {outer : List Nat} {value : Float}
      (found : (before.reading p).found = .ok (.keyword .UNTIL))
      (stack : before.repeatStack = start :: outer)
      (condition : Expression.valueAt? p before.store (before.reading p).stop =
        some (value, resume))
      (holds : (value == 0.0) = false) (ahead : p.Ahead (before.reading p) ⟨resume, none⟩) :
      Effect p before .moved
        { before with
          cursor := ⟨resume, none⟩
          repeatStack := outer
          statementStart := (before.reading p).stop }
  | repeated {start resume : Nat} {outer : List Nat} {value : Float}
      (found : (before.reading p).found = .ok (.keyword .UNTIL))
      (stack : before.repeatStack = start :: outer)
      (condition : Expression.valueAt? p before.store (before.reading p).stop =
        some (value, resume))
      (fails : (value == 0.0) = true) :
      Effect p before (.jumped resume start)
        { before with
          cursor := .jump p start
          statementStart := (before.reading p).stop }

theorem Effect.labels {p : Program} {before after : State} {progress : Progress}
    (effect : Effect p before progress after) : after.labels = before.labels := by
  cases effect with
  | onward _ _ same | finished _ _ same | skippedLine _ same | jumped _ _ same => exact same.labels
  | _ => rfl

/-! ### Statements that succeed -/

namespace Statement

open Exec

variable {σ : Type} {p : Program} {machine after : Machine σ} {flow : Flow}

theorem expectVariable_ok {letter : Letter}
    (named : letterAt? p machine.state.cursor.offset = some letter) :
    expectVariable p machine =
      .ok letter (machine.withCursor (.behind (machine.state.reading p))) := by
  rw [letterAt?] at named
  split at named
  next text found =>
    rw [expectVariable, bind_of_ok (next_ok found)]
    simp only [Letter.ofName, named]
    rfl
  next => cases named

theorem expectVariable_error (unnamed : letterAt? p machine.state.cursor.offset = none) :
    ∃ failure cursor, expectVariable p machine = .error failure (machine.withCursor cursor) := by
  rw [expectVariable]
  cases found : (machine.state.reading p).found with
  | error failure => exact ⟨failure, _, bind_of_error (next_error found)⟩
  | ok token =>
    rw [bind_of_ok (next_ok found)]
    cases token with
    | name text =>
      rw [State.reading] at found
      simp only [letterAt?, found] at unnamed
      simp only [Letter.ofName, unnamed]
      exact ⟨_, _, rfl⟩
    | _ => exact ⟨_, _, rfl⟩

theorem expectVariable_eq_ok {letter : Letter} (ran : expectVariable p machine = .ok letter after) :
    ∃ text, (machine.state.reading p).found = .ok (.name text) ∧
      Letter.ofName? text = some letter ∧
      after = machine.withCursor (.behind (machine.state.reading p)) := by
  rw [expectVariable] at ran
  obtain ⟨token, between, readNext, ran⟩ := exists_of_bind_ok ran
  obtain ⟨found, rfl⟩ := next_eq_ok readNext
  cases token with
  | name text =>
    dsimp only at ran
    rw [Letter.ofName] at ran
    cases known : Letter.ofName? text with
    | some meant =>
      rw [known] at ran
      cases ran
      exact ⟨text, found, known, rfl⟩
    | none =>
      rw [known] at ran
      cases ran
  | _ => cases ran

theorem expectEqualSign_eq_ok (ran : expectEqualSign p machine = .ok () after) :
    (machine.state.reading p).found = .ok (.delimiter .equal) ∧
      after = machine.withCursor (.behind (machine.state.reading p)) := by
  rw [expectEqualSign] at ran
  obtain ⟨token, between, readNext, ran⟩ := exists_of_bind_ok ran
  obtain ⟨found, rfl⟩ := next_eq_ok readNext
  split at ran
  next equal =>
    cases ran
    exact ⟨equal ▸ found, rfl⟩
  · cases ran

theorem expectLabel_eq_ok {target : Nat} (ran : expectLabel p machine = .ok target after) :
    ∃ label token, (machine.state.reading p).found = .ok token ∧
      machine.state.labels.find? label = some target ∧
      after = machine.withCursor (.behind (machine.state.reading p)) := by
  rw [expectLabel] at ran
  obtain ⟨token, between, readNext, ran⟩ := exists_of_bind_ok ran
  obtain ⟨found, rfl⟩ := next_eq_ok readNext
  cases token with
  | number label | name label =>
    obtain ⟨state, _, got, ran⟩ := exists_of_bind_ok ran
    cases got
    cases known : machine.state.labels.find? label with
    | some offset =>
      simp only [Machine.withCursor, known] at ran
      cases ran
      exact ⟨label, _, found, known, rfl⟩
    | none =>
      simp only [Machine.withCursor, known] at ran
      cases ran
  | _ => cases ran

theorem forClause?_eq {store : Store} {offset behind resume : Nat} {text : String}
    {letter : Letter} {start target : Float} (name : (p.read offset).found = .ok (.name text))
    (known : Letter.ofName? text = some letter)
    (equal : (p.read (p.read offset).stop).found = .ok (.delimiter .equal))
    (starts : Expression.valueAt? p store (p.read (p.read offset).stop).stop = some (start, behind))
    (separator : (p.read behind).found = .ok (.keyword .TO))
    (targets : Expression.valueAt? p (store.set letter start) (p.read behind).stop =
      some (target, resume)) :
    forClause? p store offset = some (start, ⟨letter, target, resume⟩) := by
  unfold forClause?
  dsimp only
  rw [name]
  refine Option.bind_eq_some_iff.mpr ⟨letter, known, ?_⟩
  refine Option.bind_eq_some_iff.mpr ⟨(), if_pos equal, ?_⟩
  refine Option.bind_eq_some_iff.mpr ⟨(start, behind), starts, ?_⟩
  refine Option.bind_eq_some_iff.mpr ⟨(), if_pos separator, ?_⟩
  exact Option.bind_eq_some_iff.mpr ⟨(target, resume), targets, rfl⟩

/-- A FOR that succeeds has read a whole clause. The body is then entered or skipped. -/
theorem enterFor_eq_ok (ran : enterFor p machine = .ok () after) :
    ∃ start frame,
      forClause? p machine.state.store machine.state.cursor.offset = some (start, frame) ∧
      if start ≤ frame.target then
        after.state =
          { machine.state with
            cursor := ⟨frame.resume, none⟩
            store := machine.state.store.set frame.letter start
            forStack := frame :: machine.state.forStack }
      else
        ∃ cursor, after.state =
          { machine.state with cursor, store := machine.state.store.set frame.letter start } := by
  rw [enterFor] at ran
  obtain ⟨letter, _, ranVariable, ran⟩ := exists_of_bind_ok ran
  obtain ⟨text, foundName, known, rfl⟩ := expectVariable_eq_ok ranVariable
  obtain ⟨_, _, ranEqual, ran⟩ := exists_of_bind_ok ran
  obtain ⟨foundEqual, rfl⟩ := expectEqualSign_eq_ok ranEqual
  simp only [Machine.withCursor_reading, Machine.withCursor_withCursor] at foundEqual ran
  obtain ⟨start, _, ranStart, ran⟩ := exists_of_bind_ok ran
  obtain ⟨_, evaluated, rfl⟩ := evaluate_eq_ok ranStart
  obtain ⟨behind, _, _, _, rfl, startValue⟩ := Expression.evaluate_eq_ok evaluated
  simp only [Machine.withCursor_cursor, Machine.withCursor_store, Machine.withCursor_withCursor]
    at startValue ran
  -- from here on the variable has its start, also for the target
  obtain ⟨_, _, ranAssign, ran⟩ := exists_of_bind_ok ran
  cases ranAssign
  obtain ⟨separator, _, ranTo, ran⟩ := exists_of_bind_ok ran
  obtain ⟨foundTo, rfl⟩ := next_eq_ok ranTo
  split at ran
  next isTo =>
    subst isTo
    obtain ⟨target, _, ranTarget, ran⟩ := exists_of_bind_ok ran
    obtain ⟨_, evaluated, rfl⟩ := evaluate_eq_ok ranTarget
    obtain ⟨last, token, follows, foundLast, rfl, targetValue⟩ :=
      Expression.evaluate_eq_ok evaluated
    refine ⟨start, _, forClause?_eq foundName known foundEqual startValue foundTo targetValue, ?_⟩
    split at ran
    next enters =>
      cases ran
      rw [if_pos enters]
      rfl
    next exceeds =>
      -- the body is skipped by reading on behind the clause
      obtain ⟨tokens, passes, -⟩ := follows
      have reading : p.IsReading last := passes.isReading ⟨_, rfl⟩
      obtain ⟨⟨cursor, moved⟩, -⟩ :=
        (scans_skipToNext reading _ (.before (.done last) foundLast)).of_ok ran
      rw [if_neg exceeds]
      exact ⟨cursor, moved⟩
  next => cases ran

end Statement

/-! ### Steps that succeed -/

namespace Machine

open Exec Statement

variable {σ : Type} {p : Program} {machine after : Machine σ} {token : Token}
  {progress : Progress}

/-- The machine when the statement of a keyword at the cursor starts. -/
def dispatched (p : Program) (machine : Machine σ) : Machine σ :=
  { machine with
    state := { machine.state with
      cursor := .behind (machine.state.reading p)
      statementStart := (machine.state.reading p).stop } }

/-- The machine when the assignment to a name at the cursor starts. -/
def assigning (p : Program) (machine : Machine σ) : Machine σ :=
  { machine with
    state := { machine.state with
      cursor := .before (machine.state.reading p)
      statementStart := (machine.state.reading p).start } }

theorem isReading (p : Program) (state : State) : p.IsReading (state.reading p) := ⟨_, rfl⟩

theorem ahead_dispatched (found : (machine.state.reading p).found = .ok token) :
    p.Ahead (machine.state.reading p) (machine.dispatched p).state.cursor :=
  .behind (.done _) found

theorem ahead_assigning (found : (machine.state.reading p).found = .ok token) :
    p.Ahead (machine.state.reading p) (machine.assigning p).state.cursor :=
  .before (.done _) found

theorem sameStacks_of_dispatched {state : State}
    (same : (machine.dispatched p).state.SameStacks state) : machine.state.SameStacks state :=
  ⟨same.labels, same.forStack, same.gosubStack, same.repeatStack⟩

theorem onward_eq_ok {exec : Exec σ Unit}
    (ran : ((do exec; return .onward) >>= follow p) machine = .ok progress after) :
    progress = .moved ∧ exec machine = .ok () after := by
  obtain ⟨flow, between, ran, followed⟩ := exists_of_bind_ok ran
  obtain ⟨_, between, ran, returned⟩ := exists_of_bind_ok ran
  cases returned
  cases followed
  exact ⟨rfl, ran⟩

/-- The effect of a statement that leaves loops and calls alone. -/
theorem scanned_effect {exec : Exec σ Unit} {word : Keyword}
    (found : (machine.state.reading p).found = .ok (.keyword word))
    (tame : word.isControl = false)
    (scans : Scans p (machine.state.reading p) State.SameControl exec)
    (ran : ((do exec; return .onward) >>= follow p) (machine.dispatched p) = .ok progress after) :
    Effect p machine.state progress after.state := by
  obtain ⟨rfl, executed⟩ := onward_eq_ok ran
  obtain ⟨same, ahead⟩ := (scans (ahead_dispatched found)).of_ok executed
  exact .onward found (by simpa using tame) (sameStacks_of_dispatched same.toSameStacks) ahead

theorem goto_effect (found : (machine.state.reading p).found = .ok (.keyword .GOTO))
    (ran : (goto p >>= follow p) (machine.dispatched p) = .ok progress after) :
    Effect p machine.state progress after.state := by
  obtain ⟨flow, between, ran, followed⟩ := exists_of_bind_ok ran
  obtain ⟨target, between, ran, returned⟩ := exists_of_bind_ok ran
  cases returned
  obtain ⟨label, token, -, known, rfl⟩ := expectLabel_eq_ok ran
  cases followed
  exact .jumped found known ⟨rfl, rfl, rfl, rfl⟩ rfl

theorem callSub_effect (found : (machine.state.reading p).found = .ok (.keyword .GOSUB))
    (ran : (callSub p >>= follow p) (machine.dispatched p) = .ok progress after) :
    Effect p machine.state progress after.state := by
  obtain ⟨flow, between, ran, followed⟩ := exists_of_bind_ok ran
  obtain ⟨target, between, ranLabel, ran⟩ := exists_of_bind_ok ran
  obtain ⟨label, token, named, known, rfl⟩ := expectLabel_eq_ok ranLabel
  cases ran
  cases followed
  exact .called found named known

theorem returnFromSub_effect (found : (machine.state.reading p).found = .ok (.keyword .RETURN))
    (ran : (returnFromSub >>= follow p) (machine.dispatched p) = .ok progress after) :
    Effect p machine.state progress after.state := by
  obtain ⟨flow, between, ran, followed⟩ := exists_of_bind_ok ran
  obtain ⟨state, _, got, ran⟩ := exists_of_bind_ok ran
  cases got
  cases stack : machine.state.gosubStack with
  | nil =>
    simp only [dispatched, stack] at ran
    cases ran
  | cons target rest =>
    simp only [dispatched, stack] at ran
    cases ran
    cases followed
    exact .returned found stack

theorem branch_effect (found : (machine.state.reading p).found = .ok (.keyword .IF))
    (ran : ((do branch p; return .onward) >>= follow p) (machine.dispatched p) =
      .ok progress after) :
    Effect p machine.state progress after.state := by
  obtain ⟨rfl, executed⟩ := onward_eq_ok ran
  rw [branch] at executed
  obtain ⟨value, evaluated, ranCondition, ran⟩ := exists_of_bind_ok executed
  obtain ⟨cursor, condition, rfl⟩ := evaluate_eq_ok ranCondition
  obtain ⟨last, token, follows, foundLast, rfl, -⟩ := Expression.evaluate_eq_ok condition
  have onLine : p.Follows (machine.state.reading p) last :=
    (Program.follows_next found (by simp) (by simp)).trans follows
  split at ran
  next holds =>
    obtain ⟨next, _, ranNext, ran⟩ := exists_of_bind_ok ran
    obtain ⟨moved, further⟩ :=
      (scans_next (isReading p machine.state) (onLine.ahead foundLast)).of_ok ranNext
    split at ran
    next =>
      cases ran
      have moved : (machine.dispatched p).state.Moved after.state := .trans ⟨_, rfl⟩ moved
      exact .onward found (by simp [Keyword.isControl])
        (sameStacks_of_dispatched moved.sameControl.toSameStacks) further
    next => cases ran
  next fails =>
    -- the condition stands on the line that is skipped
    cases ran
    refine .skippedLine found ⟨rfl, rfl, rfl, rfl⟩ ?_
    rw [onLine.nextLine]
    rfl

theorem enterFor_effect (found : (machine.state.reading p).found = .ok (.keyword .FOR))
    (ran : ((do enterFor p; return .onward) >>= follow p) (machine.dispatched p) =
      .ok progress after) :
    Effect p machine.state progress after.state := by
  obtain ⟨rfl, executed⟩ := onward_eq_ok ran
  have scanned := scans_enterFor (isReading p machine.state) (ahead_dispatched found)
  obtain ⟨-, ahead⟩ := scanned.of_ok executed
  obtain ⟨start, frame, clause, outcome⟩ := enterFor_eq_ok executed
  split at outcome
  next enters =>
    rw [outcome] at ahead ⊢
    exact .entered found clause enters ahead
  next exceeds =>
    obtain ⟨cursor, skipped⟩ := outcome
    rw [skipped] at ahead ⊢
    exact .skippedBody found clause exceeds ahead

theorem endFor_effect (found : (machine.state.reading p).found = .ok (.keyword .NEXT))
    (ran : (endFor p >>= follow p) (machine.dispatched p) = .ok progress after) :
    Effect p machine.state progress after.state := by
  obtain ⟨flow, between, ran, followed⟩ := exists_of_bind_ok ran
  rw [endFor] at ran
  -- whether a variable is named or not, reading it moves the cursor only
  obtain ⟨named, between, ranVariable, ran⟩ := exists_of_bind_ok ran
  obtain ⟨⟨cursor, moved⟩, ahead⟩ :=
    (scans_optionalVariable (isReading p machine.state) (ahead_dispatched found)).of_ok ranVariable
  obtain ⟨state, _, got, ran⟩ := exists_of_bind_ok ran
  cases got
  obtain ⟨state, console⟩ := between
  subst moved
  cases stack : machine.state.forStack with
  | nil =>
    simp only [dispatched, stack] at ran
    cases ran
  | cons frame outer =>
    simp only [dispatched, stack] at ran
    obtain ⟨_, _, changed, ran⟩ := exists_of_bind_ok ran
    cases changed
    split at ran
    next =>
      obtain ⟨state, _, got, ran⟩ := exists_of_bind_ok ran
      cases got
      obtain ⟨_, _, assigned, ran⟩ := exists_of_bind_ok ran
      cases assigned
      split at ran
      next exceeds =>
        cases ran
        cases followed
        exact .leftFor found stack exceeds ahead
      next within =>
        -- the frame is back on the stack
        cases ran
        cases followed
        rw [← stack]
        exact .repeatedFor found stack within
    next => cases ran

theorem enterRepeat_effect (found : (machine.state.reading p).found = .ok (.keyword .REPEAT))
    (ran : ((do enterRepeat; return .onward) >>= follow p) (machine.dispatched p) =
      .ok progress after) :
    Effect p machine.state progress after.state := by
  cases ran
  exact .opened found

theorem endRepeat_effect (found : (machine.state.reading p).found = .ok (.keyword .UNTIL))
    (ran : (endRepeat p >>= follow p) (machine.dispatched p) = .ok progress after) :
    Effect p machine.state progress after.state := by
  obtain ⟨flow, between, ran, followed⟩ := exists_of_bind_ok ran
  obtain ⟨state, _, got, ran⟩ := exists_of_bind_ok ran
  cases got
  cases stack : machine.state.repeatStack with
  | nil =>
    simp only [dispatched, stack] at ran
    cases ran
  | cons start outer =>
    simp only [dispatched, stack] at ran
    -- the loop is off the stack while its condition is evaluated
    obtain ⟨_, _, changed, ran⟩ := exists_of_bind_ok ran
    cases changed
    obtain ⟨value, _, ranCondition, ran⟩ := exists_of_bind_ok ran
    obtain ⟨_, evaluated, rfl⟩ := evaluate_eq_ok ranCondition
    obtain ⟨last, token, follows, foundLast, rfl, condition⟩ := Expression.evaluate_eq_ok evaluated
    have onLine : p.Follows (machine.state.reading p) last :=
      (Program.follows_next found (by simp) (by simp)).trans follows
    split at ran
    next fails =>
      cases ran
      cases followed
      rw [← stack]
      exact .repeated found stack condition fails
    next holds =>
      cases ran
      cases followed
      exact .leftRepeat found stack condition (by simpa using holds) (onLine.ahead foundLast)

/-! ### All steps -/

section Steps

variable [Console σ] {config : Config} {failure : Failure} {word : Keyword} {text : String}

theorem step_of_error (found : (machine.state.reading p).found = .error failure) :
    step p config machine =
      .error failure (machine.withCursor (.behind (machine.state.reading p))) := by
  rw [step, bind_of_error (next_error found)]

theorem step_of_endOfProgram (found : (machine.state.reading p).found = .ok .endOfProgram) :
    step p config machine = .ok (.finished .endOfProgram)
      (machine.withCursor (.behind (machine.state.reading p))) := by
  rw [step, bind_of_ok (next_ok found)]
  rfl

theorem step_of_name (found : (machine.state.reading p).found = .ok (.name text)) :
    step p config machine = (do assignment p; return Progress.moved) (machine.assigning p) := by
  rw [step, bind_of_ok (next_ok found)]
  rfl

theorem step_of_keyword (found : (machine.state.reading p).found = .ok (.keyword word)) :
    step p config machine = (perform p config word >>= follow p) (machine.dispatched p) := by
  rw [step, bind_of_ok (next_ok found)]
  rfl

theorem perform_effect (found : (machine.state.reading p).found = .ok (.keyword word))
    (ran : (perform p config word >>= follow p) (machine.dispatched p) = .ok progress after) :
    Effect p machine.state progress after.state := by
  have reading := isReading p machine.state
  cases word with
  | PRINT =>
    exact scanned_effect found rfl ((scans_print reading config).imp State.Moved.sameControl) ran
  | INPUT => exact scanned_effect found rfl (scans_input reading config) ran
  | IF => exact branch_effect found ran
  | FOR => exact enterFor_effect found ran
  | REPEAT => exact enterRepeat_effect found ran
  | THEN | TO =>
    cases ran
    exact .onward found (by simp [Keyword.isControl]) ⟨rfl, rfl, rfl, rfl⟩ (ahead_dispatched found)
  | GOTO => exact goto_effect found ran
  | GOSUB => exact callSub_effect found ran
  | RETURN => exact returnFromSub_effect found ran
  | NEXT => exact endFor_effect found ran
  | UNTIL => exact endRepeat_effect found ran
  | END =>
    cases ran
    exact .finished found (by simp [Keyword.isControl]) ⟨rfl, rfl, rfl, rfl⟩
      (ahead_dispatched found)

/-- A step that succeeds has one of the effects. -/
theorem step_effect (ran : step p config machine = .ok progress after) :
    Effect p machine.state progress after.state := by
  cases found : (machine.state.reading p).found with
  | error failure =>
    rw [step_of_error found] at ran
    cases ran
  | ok token =>
    cases token with
    | endOfProgram =>
      rw [step_of_endOfProgram found] at ran
      cases ran
      exact .finished found (by simp) ⟨rfl, rfl, rfl, rfl⟩ (.behind (.done _) found)
    | name text =>
      rw [step_of_name found] at ran
      obtain ⟨_, between, ran, returned⟩ := exists_of_bind_ok ran
      cases returned
      obtain ⟨same, ahead⟩ :=
        (scans_assignment (isReading p machine.state) (ahead_assigning found)).of_ok ran
      exact .onward found (by simp) ⟨same.labels, same.forStack, same.gosubStack, same.repeatStack⟩
        ahead
    | keyword word =>
      rw [step_of_keyword found] at ran
      exact perform_effect found ran
    | delimiter | endOfLine | number | quoted =>
      rw [step, bind_of_ok (next_ok found)] at ran
      cases ran
      exact .onward found (by simp) ⟨rfl, rfl, rfl, rfl⟩ (.behind (.done _) found)

end Steps

end Machine

end LineBasic

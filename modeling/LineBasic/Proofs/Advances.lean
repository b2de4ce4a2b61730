import LineBasic.Proofs.InnerLoops
import LineBasic.Proofs.Landing
import LineBasic.Proofs.Rounds

/-!
# Each step gets on, or it jumps

A step can give back what it has read, and the end of a program is read without getting on.
Still no step leaves the cursor where it was: it gets on, or it ends the run, or it is the
jump of one of five statements, `Machine.step_goesOn`. Behind the token of its statement, a
statement reads on and never gives that token back.

So a run gets on by a character with each step that does not meet one of the five, and in a
text there are not more of these steps in a row than characters, `runs_advance`. The loops
within a statement end as well.
-/

namespace LineBasic

/-! ### What a step can come to -/

/-- The statements that can jump. -/
def Keyword.canJump : Keyword → Bool
  | GOTO | GOSUB | RETURN | NEXT | UNTIL => true
  | _ => false

/-- Whether the statement at the cursor can jump. -/
def State.canJump (p : Program) (state : State) : Bool :=
  match (state.reading p).found with
  | .ok (.keyword word) => word.canJump
  | _ => false

/-- How a step that succeeds goes on. -/
inductive GoesOn (p : Program) (before : State) : Progress → State → Prop
  | finished {completion : Completion} {after : State} :
      GoesOn p before (.finished completion) after
  | jumped {source target : Nat} {after : State} (jumps : before.canJump p = true)
      (cursor : after.cursor = .jump p target) : GoesOn p before (.jumped source target) after
  | moved {after : State} (forward : before.cursor.offset < after.cursor.offset) :
      GoesOn p before .moved after

/-! ### Computations that start with a token -/

namespace Exec

variable {σ α β : Type} {p : Program} {machine after : Machine σ} {exec : Exec σ α}

/-- The computation does not succeed without a token at the cursor, and depends on the cursor
through this token alone. -/
structure StartsReading (p : Program) (exec : Exec σ α) : Prop where
  fetches : ∀ {machine : Machine σ} {value after}, exec machine = .ok value after →
    ∃ token, (machine.state.reading p).found = .ok token
  same : ∀ machine, exec (machine.withCursor (.before (machine.state.reading p))) = exec machine

theorem startsReading_next : StartsReading p (next p : Exec σ Token) where
  fetches ran := ⟨_, (next_eq_ok ran).1⟩
  same machine := by
    have again : (machine.withCursor (.before (machine.state.reading p))).state.reading p =
        machine.state.reading p := p.read_start _
    cases found : (machine.state.reading p).found with
    | ok token =>
      rw [next_ok found, next_ok (by rw [again, found]), again, Machine.withCursor_withCursor]
    | error failure =>
      rw [next_error found, next_error (by rw [again, found]), again,
        Machine.withCursor_withCursor]

theorem StartsReading.bind {next : α → Exec σ β} (starts : StartsReading p exec) :
    StartsReading p (exec >>= next) where
  fetches ran := by
    obtain ⟨value, between, ran, -⟩ := exists_of_bind_ok ran
    exact starts.fetches ran
  same machine := by simp only [Bind.bind, EStateM.bind, starts.same]

/-- Whatever starts with a token and reads on does not lead back in front of it. -/
theorem StartsReading.offset_le {value : α} {same : State → State → Prop}
    (starts : StartsReading p exec) (scans : Scans p (machine.state.reading p) same exec)
    (ran : exec machine = .ok value after) :
    machine.state.cursor.offset ≤ after.state.cursor.offset := by
  obtain ⟨token, found⟩ := starts.fetches ran
  have ahead : p.Ahead (machine.state.reading p)
      (machine.withCursor (.before (machine.state.reading p))).state.cursor :=
    .before (.done _) found
  rw [← starts.same] at ran
  obtain ⟨-, onward⟩ := (scans ahead).of_ok ran
  exact (p.le_start _).trans (onward.start_le ⟨_, rfl⟩)

theorem offset_lt_of_evaluate {value : Float} (ran : evaluate p machine = .ok value after) :
    machine.state.cursor.offset < after.state.cursor.offset := by
  obtain ⟨cursor, evaluated, rfl⟩ := evaluate_eq_ok ran
  exact Expression.offset_lt_of_evaluate evaluated

theorem offset_le_of_next {token : Token} (ran : next p machine = .ok token after) :
    machine.state.cursor.offset ≤ after.state.cursor.offset := by
  obtain ⟨-, rfl⟩ := next_eq_ok ran
  exact (p.le_start _).trans (p.start_le_stop _)

end Exec

/-! ### Statements -/

namespace Statement

open Exec

variable {σ : Type} {p : Program} {machine after : Machine σ}

theorem assignment_advances (ran : assignment p machine = .ok () after) :
    machine.state.cursor.offset < after.state.cursor.offset := by
  rw [assignment] at ran
  obtain ⟨letter, _, named, ran⟩ := exists_of_bind_ok ran
  obtain ⟨text, -, -, rfl⟩ := expectVariable_eq_ok named
  obtain ⟨_, _, equal, ran⟩ := exists_of_bind_ok ran
  obtain ⟨-, rfl⟩ := expectEqualSign_eq_ok equal
  obtain ⟨value, _, evaluated, ran⟩ := exists_of_bind_ok ran
  have forward := offset_lt_of_evaluate evaluated
  cases ran
  -- the name and the sign are passed before the expression
  have name := (p.le_start machine.state.cursor.offset).trans (p.start_le_stop _)
  have sign := (p.le_start (p.read machine.state.cursor.offset).stop).trans (p.start_le_stop _)
  exact Nat.lt_of_le_of_lt (name.trans sign) forward

theorem branch_advances (ran : branch p machine = .ok () after) :
    machine.state.cursor.offset < after.state.cursor.offset := by
  rw [branch] at ran
  obtain ⟨value, between, evaluated, ran⟩ := exists_of_bind_ok ran
  have forward := offset_lt_of_evaluate evaluated
  split at ran
  next =>
    obtain ⟨token, _, read, ran⟩ := exists_of_bind_ok ran
    have further := offset_le_of_next read
    split at ran
    next =>
      cases ran
      exact Nat.lt_of_lt_of_le forward further
    next => cases ran
  next =>
    cases ran
    exact Nat.lt_of_lt_of_le forward (Nat.le_add_right _ _)

theorem endRepeat_advances (ran : endRepeat p machine = .ok .onward after) :
    machine.state.cursor.offset < after.state.cursor.offset := by
  rw [endRepeat] at ran
  obtain ⟨state, _, got, ran⟩ := exists_of_bind_ok ran
  cases got
  cases stack : machine.state.repeatStack with
  | nil =>
    simp only [stack] at ran
    cases ran
  | cons start outer =>
    simp only [stack] at ran
    obtain ⟨_, _, changed, ran⟩ := exists_of_bind_ok ran
    cases changed
    obtain ⟨value, _, evaluated, ran⟩ := exists_of_bind_ok ran
    have forward := offset_lt_of_evaluate evaluated
    split at ran
    next => cases ran
    next =>
      cases ran
      exact forward

theorem returnFromSub_ne_onward : returnFromSub machine ≠ .ok .onward after := by
  intro ran
  rw [returnFromSub] at ran
  obtain ⟨state, _, got, ran⟩ := exists_of_bind_ok ran
  cases got
  cases stack : machine.state.gosubStack with
  | nil =>
    simp only [stack] at ran
    cases ran
  | cons target rest =>
    simp only [stack] at ran
    cases ran

variable [Console σ] {config : Config} {word : Keyword}

theorem startsReading_perform (config : Config)
    (reads : word ∈ [Keyword.PRINT, .INPUT, .FOR, .NEXT, .GOTO, .GOSUB]) :
    StartsReading p (perform p config word : Exec σ Flow) := by
  simp only [List.mem_cons, List.not_mem_nil, or_false] at reads
  rcases reads with rfl | rfl | rfl | rfl | rfl | rfl
  -- what is bound first is, in the end, the token that is read
  · exact (StartsReading.bind startsReading_next).bind
  · exact (StartsReading.bind (StartsReading.bind startsReading_next)).bind
  · exact (StartsReading.bind (StartsReading.bind startsReading_next)).bind
  · exact StartsReading.bind (StartsReading.bind startsReading_next)
  · exact StartsReading.bind (StartsReading.bind startsReading_next)
  · exact StartsReading.bind (StartsReading.bind startsReading_next)

/-- A statement after which the run goes on at the cursor does not lead back. -/
theorem perform_advances (ran : perform p config word machine = .ok .onward after) :
    machine.state.cursor.offset ≤ after.state.cursor.offset := by
  cases word with
  | PRINT | INPUT | FOR | NEXT | GOTO | GOSUB =>
    exact (startsReading_perform config (by decide)).offset_le
      (scans_perform ⟨_, rfl⟩ config (by decide)) ran
  | IF =>
    obtain ⟨_, between, branched, returned⟩ := exists_of_bind_ok ran
    cases returned
    exact Nat.le_of_lt (branch_advances branched)
  | UNTIL => exact Nat.le_of_lt (endRepeat_advances ran)
  | REPEAT | THEN | TO =>
    cases ran
    exact Nat.le_refl _
  | RETURN => exact absurd ran returnFromSub_ne_onward
  | END => cases ran

end Statement

/-! ### Steps -/

namespace Machine

open Exec Statement

variable {σ : Type} [Console σ] {p : Program} {config : Config} {machine after : Machine σ}
  {progress : Progress}

theorem offset_lt_of_moved (stepped : step p config machine = .ok .moved after) :
    machine.state.cursor.offset < after.state.cursor.offset := by
  cases found : (machine.state.reading p).found with
  | error failure =>
    rw [step_of_error found] at stepped
    cases stepped
  | ok token =>
    have start : machine.state.cursor.offset ≤ (machine.state.reading p).start := p.le_start _
    cases token with
    | endOfProgram =>
      rw [step_of_endOfProgram found] at stepped
      cases stepped
    | name text =>
      rw [step_of_name found] at stepped
      obtain ⟨_, between, assigned, returned⟩ := exists_of_bind_ok stepped
      cases returned
      exact Nat.lt_of_le_of_lt start (assignment_advances assigned)
    | keyword word =>
      rw [step_of_keyword found] at stepped
      obtain ⟨flow, between, performed, followed⟩ := exists_of_bind_ok stepped
      have keyword := (Program.start_lt_stop found (by simp)).1
      cases flow with
      | onward =>
        cases followed
        exact Nat.lt_of_lt_of_le (Nat.lt_of_le_of_lt start keyword) (perform_advances performed)
      | jump | halt => cases followed
    | delimiter | endOfLine | number | quoted =>
      rw [step, bind_of_ok (next_ok found)] at stepped
      cases stepped
      exact Nat.lt_of_le_of_lt start (Program.start_lt_stop found (by simp)).1

theorem step_goesOn (stepped : step p config machine = .ok progress after) :
    GoesOn p machine.state progress after.state := by
  have canJump : ∀ word, (machine.state.reading p).found = .ok (.keyword word) →
      word.canJump = true → machine.state.canJump p = true := by
    intro word found jumps
    rw [State.canJump, found]
    exact jumps
  have forward : progress = .moved →
      machine.state.cursor.offset < after.state.cursor.offset := by
    rintro rfl
    exact offset_lt_of_moved stepped
  have effect := step_effect stepped
  generalize after.state = state at forward effect ⊢
  cases effect with
  | finished => exact .finished
  | jumped found _ _ cursor => exact .jumped (canJump _ found rfl) cursor
  | called found => exact .jumped (canJump _ found rfl) rfl
  | returned found => exact .jumped (canJump _ found rfl) rfl
  | repeatedFor found => exact .jumped (canJump _ found rfl) rfl
  | repeated found => exact .jumped (canJump _ found rfl) rfl
  | _ => exact .moved (forward rfl)

/-! ### Runs -/

variable {first : Machine σ} {steps : Nat}

/-- Between two machines of a run that follow one another lies a step that does not end it. -/
theorem continues_of_loop (reached : loop p config steps first = .ok none machine)
    (ran : loop p config (steps + 1) first = .ok none after) :
    Continues p config (fun _ => True) machine after := by
  induction steps generalizing first with
  | zero =>
    cases reached
    obtain ⟨progress, between, stepped, ended⟩ := exists_of_bind_ok ran
    cases progress with
    | finished => cases ended
    | moved | jumped =>
      cases ended
      exact ⟨trivial, _, stepped, by simp⟩
  | succ steps ih =>
    -- the first step is the same for both
    obtain ⟨progress, between, stepped, reached⟩ := exists_of_bind_ok reached
    rw [loop, bind_of_ok stepped] at ran
    cases progress with
    | finished => cases reached
    | moved | jumped => exact ih reached ran

theorem exists_of_loop {more : Nat} (ran : loop p config (steps + more) first = .ok none after) :
    ∃ between, loop p config steps first = .ok none between := by
  induction more generalizing after with
  | zero => exact ⟨after, ran⟩
  | succ more ih =>
    obtain ⟨between, _, reached, -⟩ := loop_last ran
    exact ih reached

/-- Each step of a run that does not meet one of the five statements passes a character. -/
theorem offset_of_calm {taken count : Nat}
    (calm : ∀ i < count, ∀ machine, loop p config (taken + i) first = .ok none machine →
      machine.state.canJump p = false)
    (ran : loop p config (taken + count) first = .ok none after) :
    count ≤ after.state.cursor.offset := by
  induction count generalizing after with
  | zero => exact Nat.zero_le _
  | succ count ih =>
    obtain ⟨machine, _, reached, -⟩ := loop_last ran
    have passed := ih (fun i less => calm i (Nat.lt_succ_of_lt less)) reached
    obtain ⟨-, progress, stepped, going⟩ := continues_of_loop reached ran
    cases step_goesOn stepped with
    | finished => exact absurd rfl (going _)
    | jumped jumps =>
      rw [calm count (Nat.lt_succ_self _) machine reached] at jumps
      cases jumps
    | moved forward => exact Nat.succ_le_of_lt (Nat.lt_of_le_of_lt passed forward)

theorem offset_le_length {before : Machine σ} {completion : Option Completion}
    (started : start p config before = .ok () first)
    (ran : loop p config steps first = .ok completion after) :
    after.state.cursor.offset ≤ p.length :=
  (loop_surveyed started ran).1.cursor.le_length

/-- A step that does not end the run is the jump of one of five statements, or it leads on. The
loops within a step end: after as many turns as there are characters, and one more, nothing is
left to be done, and an expression needs six times as many. So a run that never meets one of
the five ends within as many steps as there are characters, and one more, and no run takes more
steps in a row without meeting one of them. -/
theorem runs_advance (p : Program) (config : Config) :
    (∀ (machine after : Machine σ) progress, step p config machine = .ok progress after →
      GoesOn p machine.state progress after.state) ∧
    (∀ (machine : Machine σ) again turns, p.length < turns →
      (printTurn p config)^[turns] again (0, false) machine = print p config machine) ∧
    (∀ (machine : Machine σ) again turns, p.length < turns →
      (skipTurn p)^[turns] again () machine = skipToNext p (p.length + 1) machine) ∧
    (∀ (cursor : Cursor) again turns, p.length < turns →
      p.lineTurn^[turns] again () cursor.offset = (cursor.skipLine p).offset) ∧
    (∀ store cursor others turns, 6 * (p.length + 1) ≤ turns →
      Expression.evaluateBy p (Expression.unrolled p store others turns .comparison) cursor =
        Expression.evaluate p store cursor) ∧
    (∀ before : Machine σ,
      (∀ first taken machine, start p config before = .ok () first →
        loop p config taken first = .ok none machine → machine.state.canJump p = false) →
      ∀ after, run p config (p.length + 1) before ≠ .ok none after) ∧
    ∀ (before first : Machine σ) taken count, start p config before = .ok () first →
      (∀ i < count, ∃ machine, loop p config (taken + i) first = .ok none machine ∧
        machine.state.canJump p = false) →
      count ≤ p.length + 1 := by
  refine ⟨fun _ _ _ => step_goesOn, ?printing, ?skipping, ?line, ?expression, ?calm, ?between⟩
  case printing => exact fun machine again _ => iterate_printTurn again machine
  case skipping => exact fun machine again _ => iterate_skipTurn again machine
  case line => exact fun _ again _ => p.iterate_lineTurn again
  case expression =>
    exact fun store cursor others _ => Expression.evaluateBy_unrolled p store others cursor
  case calm =>
    intro before calm after ran
    obtain ⟨_, first, started, ran⟩ := exists_of_bind_ok ran
    obtain ⟨completion, last, looped, ran⟩ := exists_of_bind_ok ran
    cases completion with
    | none =>
      rw [← Nat.zero_add (p.length + 1)] at looped
      -- so many characters have been passed, and there are not that many
      have passed := offset_of_calm (fun i _ machine => calm first _ machine started) looped
      exact absurd (offset_le_length started looped) (Nat.not_le.mpr passed)
    | some completion =>
      obtain ⟨_, _, -, returned⟩ := exists_of_bind_ok ran
      cases returned
  case between =>
    intro before first taken count started calm
    cases count with
    | zero => exact Nat.zero_le _
    | succ count =>
      obtain ⟨machine, reached, -⟩ := calm count (Nat.lt_succ_self _)
      have passed : count ≤ machine.state.cursor.offset := by
        apply offset_of_calm _ reached
        intro i less other also
        obtain ⟨known, here, jumps⟩ := calm i (Nat.lt_succ_of_lt less)
        cases here.symm.trans also
        exact jumps
      exact Nat.succ_le_succ (passed.trans (offset_le_length started reached))

/-- A PRINT and a REPEAT, with the end of the program behind them. -/
def shortRun : Program := .ofString "PRINT \"A\"\nREPEAT"

/-- Three steps, none of which meets one of the five statements. -/
theorem runs_advance_shortRun :
    ∃ first after : Machine Buffer, start shortRun {} ⟨{}, {}⟩ = .ok () first ∧
      step shortRun {} first = .ok .moved after ∧
      GoesOn shortRun first.state .moved after.state ∧
      (∀ again, (printTurn shortRun {})^[17] again (0, false) first = print shortRun {} first) ∧
      (∀ again, (skipTurn shortRun)^[17] again () first =
        skipToNext shortRun (shortRun.length + 1) first) ∧
      (∀ again, shortRun.lineTurn^[17] again () 6 = (Cursor.skipLine shortRun ⟨6, none⟩).offset) ∧
      (∃ others, Expression.evaluateBy shortRun
          (Expression.unrolled shortRun .initial others 102 .comparison) ⟨6, none⟩ =
        Expression.evaluate shortRun .initial ⟨6, none⟩) ∧
      (∀ last, run shortRun {} (shortRun.length + 1) (⟨{}, {}⟩ : Machine Buffer) ≠
        .ok none last) ∧
      3 ≤ shortRun.length + 1 := by
  have length : shortRun.length = 16 := by decide +kernel
  have calm : ∀ taken < 3, succeedsWith
      (fun completion after => completion = none ∧ after.state.canJump shortRun = false)
      ((start shortRun {} >>= fun _ => loop shortRun {} taken) (⟨{}, {}⟩ : Machine Buffer)) =
        true := by decide +kernel
  obtain ⟨completion, final, ran, ended⟩ := exists_of_succeedsWith (show
    succeedsWith (fun completion _ => completion ≠ none)
      ((start shortRun {} >>= fun _ => loop shortRun {} 3) (⟨{}, {}⟩ : Machine Buffer)) = true
    by decide +kernel)
  obtain ⟨_, first, started, ends⟩ := exists_of_bind_ok ran
  have reached : ∀ taken < 3, ∃ machine, loop shortRun {} taken first = .ok none machine ∧
      machine.state.canJump shortRun = false := by
    intro taken less
    obtain ⟨completion, machine, ran, checked⟩ := exists_of_succeedsWith (calm taken less)
    obtain ⟨rfl, jumps⟩ := of_decide_eq_true checked
    obtain ⟨_, other, again, ran⟩ := exists_of_bind_ok ran
    cases started.symm.trans again
    exact ⟨machine, ran, jumps⟩
  obtain ⟨progress, after, ran, moved⟩ := exists_of_succeedsWith (show
    succeedsWith (fun progress _ => progress = .moved)
      ((start shortRun {} >>= fun _ => step shortRun {}) (⟨{}, {}⟩ : Machine Buffer)) = true
    by decide +kernel)
  obtain ⟨_, other, again, stepped⟩ := exists_of_bind_ok ran
  cases started.symm.trans again
  cases of_decide_eq_true moved
  obtain ⟨goesOn, printing, skipping, line, expression, ending, between⟩ :=
    @runs_advance Buffer _ shortRun {}
  refine ⟨first, after, started, stepped, goesOn _ _ _ stepped,
    fun again => printing first again 17 (by omega),
    fun again => skipping first again 17 (by omega),
    fun again => line ⟨6, none⟩ again 17 (by omega),
    ⟨fun _ => throw .malformed, expression _ _ _ _ (by omega)⟩, ending ⟨{}, {}⟩ ?_,
    between ⟨{}, {}⟩ first 0 3 started (by simpa using reached)⟩
  intro other taken machine again ran
  cases started.symm.trans again
  by_cases few : taken < 3
  · obtain ⟨known, here, jumps⟩ := reached taken few
    cases here.symm.trans ran
    exact jumps
  · -- the run has ended with its third step
    obtain ⟨more, rfl⟩ := Nat.exists_eq_add_of_le (Nat.le_of_not_lt few)
    obtain ⟨between, going⟩ := exists_of_loop ran
    cases ends.symm.trans going
    exact absurd rfl (of_decide_eq_true ended)

end Machine

end LineBasic

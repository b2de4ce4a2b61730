import LineBasic.Proofs.Runs
import Mathlib.Logic.Relation

/-!
# Rounds of a loop

A loop is an entry on a stack and nothing else: FOR and REPEAT make the entry, and the statement
that closes the loop, NEXT or UNTIL, finds it there and jumps back. What is executed in between
may use the same stack.

So a round of a loop is told by its ends. It starts with the entry on the stack, and it ends where
the closing statement is met for the first time with the same stack, `Machine.RunsUntil`. The next
round starts where the closing statement jumps to, `Machine.Round`. How many rounds there are is
told by what the closing statements do, `Round.existsUnique_iff`.

The rounds of a loop leave all that is below its entry as it is, `LoopKind.within_of_round`. So
a loop around it, on the same stack, does not come to an end of one of its own rounds there.
-/

namespace LineBasic

open Relation (ReflTransGen)

namespace Machine

open Exec

variable {σ : Type} [Console σ] {p : Program} {config : Config}

/-! ### Steps in a row -/

/-- A step from a state of the region that does not end the run. -/
def Continues (p : Program) (config : Config) (region : State → Prop) (machine next : Machine σ) :
    Prop :=
  region machine.state ∧ ∃ progress, step p config machine = .ok progress next ∧
    ∀ completion, progress ≠ .finished completion

/-- Steps are taken until a state is reached for the first time. -/
def RunsUntil (p : Program) (config : Config) (reached : State → Prop)
    (machine after : Machine σ) : Prop :=
  ReflTransGen (Continues p config fun state => ¬reached state) machine after ∧
    reached after.state

variable {region reached : State → Prop} {machine between after : Machine σ} {progress : Progress}

theorem continues_of_moved (here : region machine.state)
    (stepped : step p config machine = .ok .moved after) :
    Continues p config region machine after :=
  ⟨here, .moved, stepped, by simp⟩

theorem continues_of_jumped {source target : Nat} (here : region machine.state)
    (stepped : step p config machine = .ok (.jumped source target) after) :
    Continues p config region machine after :=
  ⟨here, .jumped source target, stepped, by simp⟩

theorem Continues.unique {weaker : State → Prop} {other : Machine σ}
    (continues : Continues p config region machine after)
    (others : Continues p config weaker machine other) : after = other := by
  obtain ⟨-, _, stepped, -⟩ := continues
  obtain ⟨-, _, also, -⟩ := others
  rw [stepped] at also
  cases also
  rfl

theorem loop_of_continues (runs : ReflTransGen (Continues p config region) machine after) :
    ∃ steps, loop p config steps machine = .ok none after := by
  induction runs using ReflTransGen.head_induction_on with
  | refl => exact ⟨0, rfl⟩
  | head continues _ ih =>
    obtain ⟨-, progress, stepped, unfinished⟩ := continues
    obtain ⟨steps, ran⟩ := ih
    refine ⟨steps + 1, ?_⟩
    rw [loop, bind_of_ok stepped]
    cases progress with
    | finished completion => exact absurd rfl (unfinished completion)
    | moved | jumped => exact ran

theorem RunsUntil.unique {other : Machine σ} (runs : RunsUntil p config reached machine after)
    (others : RunsUntil p config reached machine other) : after = other := by
  obtain ⟨steps, arrived⟩ := runs
  obtain ⟨otherSteps, alsoArrived⟩ := others
  -- step by step the runs are the same, and the first to arrive does not go on
  induction steps using ReflTransGen.head_induction_on with
  | refl =>
    rcases otherSteps.cases_head with same | ⟨_, continues, -⟩
    · exact same
    · exact absurd arrived continues.1
  | head continues _ ih =>
    rcases otherSteps.cases_head with rfl | ⟨_, also, rest⟩
    · exact absurd alsoArrived continues.1
    · cases continues.unique also
      exact ih rest

theorem RunsUntil.prepend (steps : ReflTransGen (Continues p config fun state => ¬reached state)
    machine between) (runs : RunsUntil p config reached between after) :
    RunsUntil p config reached machine after :=
  ⟨steps.trans runs.1, runs.2⟩

/-! ### Rounds -/

/-- The machines with which the rounds of a loop start. From each, the run comes to where the
loop closes, and the statement there jumps to the next. -/
inductive Round (p : Program) (config : Config) (closes : State → Prop) (first : Machine σ) :
    Nat → Machine σ → Prop
  | first : Round p config closes first 0 first
  | next {count source target : Nat} {entry closing next : Machine σ}
      (earlier : Round p config closes first count entry)
      (through : RunsUntil p config closes entry closing)
      (back : step p config closing = .ok (.jumped source target) next) :
      Round p config closes first (count + 1) next

namespace Round

variable {closes : State → Prop} {first entry : Machine σ} {count : Nat}

theorem unique {other : Machine σ} (round : Round p config closes first count entry)
    (others : Round p config closes first count other) : entry = other := by
  induction round generalizing other with
  | first =>
    cases others
    rfl
  | next _ through back ih =>
    cases others with
    | next earlier alsoThrough alsoBack =>
      cases ih earlier
      cases through.unique alsoThrough
      rw [back] at alsoBack
      cases alsoBack
      rfl

/-- If it is known of each round whether the loop goes on behind it, there are as many rounds as
the loop goes on for. -/
theorem existsUnique_iff {goesOn : Nat → Prop}
    (turns : ∀ count entry, Round p config closes first count entry →
      ∃ closing, RunsUntil p config closes entry closing ∧
        (goesOn count ↔
          ∃ source target next, step p config closing = .ok (.jumped source target) next)) :
    (∃! entry, Round p config closes first count entry) ↔ ∀ earlier < count, goesOn earlier := by
  induction count with
  | zero =>
    simp only [Nat.not_lt_zero, false_implies, implies_true, iff_true]
    exact ⟨first, .first, fun _ others => others.unique .first⟩
  | succ count ih =>
    -- there is one more round if there is the one before and the loop goes on behind that
    rw [Nat.forall_lt_succ_right, ← ih]
    constructor
    · rintro ⟨_, round, -⟩
      cases round with
      | next earlier through back =>
        obtain ⟨closing, reaches, jumps⟩ := turns _ _ earlier
        cases through.unique reaches
        exact ⟨⟨_, earlier, fun _ others => others.unique earlier⟩, jumps.mpr ⟨_, _, _, back⟩⟩
    · rintro ⟨⟨entry, earlier, -⟩, goesOn⟩
      obtain ⟨closing, reaches, jumps⟩ := turns count entry earlier
      obtain ⟨_, _, next, back⟩ := jumps.mp goesOn
      have round := Round.next earlier reaches back
      exact ⟨next, round, fun _ others => others.unique round⟩

end Round

/-! ### Rounds of a given program -/

/-- The first state to be reached, if that takes fewer steps than given. -/
def runUntil? (p : Program) (config : Config) (reached : State → Prop) [DecidablePred reached] :
    (steps : Nat) → Machine σ → Option (Machine σ)
  | 0, _ => none
  | steps + 1, machine =>
    if reached machine.state then some machine
    else
      match step p config machine with
      | .ok .moved next | .ok (.jumped _ _) next => runUntil? p config reached steps next
      | _ => none

theorem runsUntil_of_runUntil? [DecidablePred reached] {steps : Nat}
    (ran : runUntil? p config reached steps machine = some after) :
    RunsUntil p config reached machine after := by
  induction steps generalizing machine with
  | zero => cases ran
  | succ steps ih =>
    rw [runUntil?] at ran
    split at ran
    next here =>
      cases ran
      exact ⟨.refl, here⟩
    next before =>
      split at ran
      next stepped => exact (ih ran).prepend (.single (continues_of_moved before stepped))
      next stepped => exact (ih ran).prepend (.single (continues_of_jumped before stepped))
      next => cases ran

/-- Whether there are no more rounds than given, and each ends as a test wants it. -/
def roundsPass (p : Program) (config : Config) (closes : State → Prop) [DecidablePred closes]
    (test : Nat → Machine σ → Machine σ → Bool) (steps : Nat) :
    (rounds count : Nat) → Machine σ → Bool
  | 0, _, _ => false
  | rounds + 1, count, entry =>
    match runUntil? p config closes steps entry with
    | none => false
    | some closing =>
      test count entry closing &&
        match step p config closing with
        | .ok (.jumped _ _) next => roundsPass p config closes test steps rounds (count + 1) next
        | _ => true

section Pass

variable {closes : State → Prop} [DecidablePred closes]
  {test : Nat → Machine σ → Machine σ → Bool} {steps rounds count : Nat} {first entry : Machine σ}

theorem exists_of_roundsPass
    (pass : roundsPass p config closes test steps rounds count entry = true) :
    ∃ closing, RunsUntil p config closes entry closing ∧ test count entry closing = true ∧
      ∀ source target next, step p config closing = .ok (.jumped source target) next →
        ∃ rounds, roundsPass p config closes test steps rounds (count + 1) next = true := by
  cases rounds with
  | zero => cases pass
  | succ rounds =>
    rw [roundsPass] at pass
    split at pass
    next => cases pass
    next closing ran =>
      rw [Bool.and_eq_true] at pass
      refine ⟨closing, runsUntil_of_runUntil? ran, pass.1, ?_⟩
      intro source target next back
      have later := pass.2
      rw [back] at later
      exact ⟨rounds, later⟩

theorem Round.of_roundsPass (pass : roundsPass p config closes test steps rounds 0 first = true)
    (round : Round p config closes first count entry) :
    ∃ closing, RunsUntil p config closes entry closing ∧ test count entry closing = true := by
  -- of the rounds that are left when a round starts, the number is not of interest
  have passes : ∃ rounds, roundsPass p config closes test steps rounds count entry = true := by
    induction round with
    | first => exact ⟨rounds, pass⟩
    | next _ through back ih =>
      obtain ⟨_, before⟩ := ih
      obtain ⟨closing, reaches, -, others⟩ := exists_of_roundsPass before
      cases through.unique reaches
      exact others _ _ _ back
  obtain ⟨_, passes⟩ := passes
  obtain ⟨closing, reaches, passed, -⟩ := exists_of_roundsPass passes
  exact ⟨closing, reaches, passed⟩

end Pass

end Machine

/-! ### Loops on a stack -/

/-- A kind of loops: their stack, and the keyword of the statement that closes them. No other
statement takes an entry off the stack. -/
structure LoopKind (ι : Type) where
  stack : State → List ι
  closing : Keyword
  changes : ∀ {p : Program} {before after : State} {progress : Progress},
    Effect p before progress after →
      stack after = stack before ∨ (∃ entry, stack after = entry :: stack before) ∨
        (before.reading p).found = .ok (.keyword closing) ∧
          ∃ entry, stack before = entry :: stack after

namespace LoopKind

/-- FOR and NEXT. -/
def counting : LoopKind ForFrame where
  stack := State.forStack
  closing := .NEXT
  changes effect := by
    cases effect with
    | onward _ _ same | finished _ _ same | skippedLine _ same | jumped _ _ same =>
      exact .inl same.forStack
    | entered => exact .inr (.inl ⟨_, rfl⟩)
    | leftFor found stack => exact .inr (.inr ⟨found, _, stack⟩)
    | _ => exact .inl rfl

/-- REPEAT and UNTIL. -/
def repeating : LoopKind Nat where
  stack := State.repeatStack
  closing := .UNTIL
  changes effect := by
    cases effect with
    | onward _ _ same | finished _ _ same | skippedLine _ same | jumped _ _ same =>
      exact .inl same.repeatStack
    | opened => exact .inr (.inl ⟨_, rfl⟩)
    | leftRepeat found stack => exact .inr (.inr ⟨found, _, stack⟩)
    | _ => exact .inl rfl

variable {ι : Type} (kind : LoopKind ι)

/-- The statement that closes a loop is at the cursor, and the loop is the innermost one. -/
def Closes (p : Program) (entry : ι) (outer : List ι) (state : State) : Prop :=
  (state.reading p).found = .ok (.keyword kind.closing) ∧ kind.stack state = entry :: outer

/-- The loop has been entered and not been left. Within it there may be others. -/
def Within (entry : ι) (outer : List ι) (state : State) : Prop :=
  ∃ inner, kind.stack state = inner ++ entry :: outer

variable {kind} {p : Program} {config : Config} {entry : ι} {outer : List ι}

instance [DecidableEq ι] : DecidablePred (kind.Closes p entry outer) :=
  fun _ => inferInstanceAs (Decidable (_ ∧ _))

theorem closes_counting {frame : ForFrame} {outer : List ForFrame} {state : State} :
    counting.Closes p frame outer state ↔
      (state.reading p).found = .ok (.keyword .NEXT) ∧ state.forStack = frame :: outer :=
  .rfl

theorem closes_repeating {start : Nat} {outer : List Nat} {state : State} :
    repeating.Closes p start outer state ↔
      (state.reading p).found = .ok (.keyword .UNTIL) ∧ state.repeatStack = start :: outer :=
  .rfl

theorem Within.of_stack {state : State} (stack : kind.stack state = entry :: outer) :
    kind.Within entry outer state :=
  ⟨[], stack⟩

/-- Only the statement that closes a loop leads out of it. -/
theorem Within.step {before after : State} {progress : Progress}
    (effect : Effect p before progress after) (within : kind.Within entry outer before)
    (underway : ¬kind.Closes p entry outer before) : kind.Within entry outer after := by
  -- what is above the entry belongs to loops within, and only the entry itself is not theirs
  obtain ⟨inner, stack⟩ := within
  rcases kind.changes effect with same | ⟨pushed, more⟩ | ⟨found, popped, less⟩
  · exact ⟨inner, same.trans stack⟩
  · exact ⟨pushed :: inner, by rw [more, stack, List.cons_append]⟩
  · cases inner with
    | nil => exact absurd ⟨found, stack⟩ underway
    | cons top inner =>
      rw [stack, List.cons_append] at less
      exact ⟨inner, (List.cons.inj less).2.symm⟩

/-- Within a loop, the run cannot come to where the loop around it closes. -/
theorem Within.not_closes {state : State} {around : ι} {further : List ι}
    (within : kind.Within entry (around :: further) state) :
    ¬kind.Closes p around further state := by
  rintro ⟨-, stack⟩
  obtain ⟨inner, deeper⟩ := within
  have lengths := congrArg List.length (stack.symm.trans deeper)
  simp only [List.length_append, List.length_cons] at lengths
  omega

section Rounds

open Machine

variable {σ : Type} [Console σ] {first machine start closing after : Machine σ} {count : Nat}

theorem within_of_runsUntil (within : kind.Within entry outer start.state)
    (runs : RunsUntil p config (kind.Closes p entry outer) start closing) :
    ReflTransGen (Continues p config (kind.Within entry outer)) start closing := by
  obtain ⟨steps, -⟩ := runs
  induction steps using ReflTransGen.head_induction_on with
  | refl => exact .refl
  | head continues _ ih =>
    obtain ⟨underway, progress, stepped, unfinished⟩ := continues
    exact .head ⟨within, progress, stepped, unfinished⟩
      (ih (within.step (step_effect stepped) underway))

/-- The rounds of a loop do not lead out of it. -/
theorem within_of_round
    (entered : ∀ count start, Round p config (kind.Closes p entry outer) first count start →
      kind.stack start.state = entry :: outer)
    (round : Round p config (kind.Closes p entry outer) first count start) :
    ReflTransGen (Continues p config (kind.Within entry outer)) first start := by
  induction round with
  | first => exact .refl
  | next earlier through back ih =>
    have body := within_of_runsUntil (.of_stack (entered _ _ earlier)) through
    exact (ih.trans body).tail (continues_of_jumped (.of_stack through.2.2) back)

section Whole

variable (entered : ∀ count start, Round p config (kind.Closes p entry outer) first count start →
    kind.stack start.state = entry :: outer)
  (enters : step p config machine = .ok .moved first)
  (round : Round p config (kind.Closes p entry outer) first count start)
  (through : RunsUntil p config (kind.Closes p entry outer) start closing)
  (leaves : step p config closing = .ok .moved after)

include entered enters round through leaves

/-- From the statement that enters a loop to the one that leaves it, nothing is executed but
within the loop. -/
theorem continues_of_rounds {region : State → Prop} (before : region machine.state)
    (during : ∀ {state}, kind.Within entry outer state → region state) :
    ReflTransGen (Continues p config region) machine after := by
  have body := (within_of_round entered round).trans
    (within_of_runsUntil (.of_stack (entered _ _ round)) through)
  have inside : ReflTransGen (Continues p config region) first closing :=
    body.lift id fun _ _ continues => ⟨during continues.1, continues.2⟩
  exact .head (continues_of_moved before enters)
    (inside.tail (continues_of_moved (during (.of_stack through.2.2)) leaves))

theorem loop_of_rounds : ∃ steps, loop p config steps machine = .ok none after := by
  have runs : ReflTransGen (Continues p config fun _ => True) machine after :=
    continues_of_rounds entered enters round through leaves trivial fun _ => trivial
  exact loop_of_continues runs

/-- A loop around this one, on the same stack, does not close before this one is left. -/
theorem runsUntil_of_rounds {around : ι} {further : List ι} {last : Machine σ}
    (opens : (machine.state.reading p).found ≠ .ok (.keyword kind.closing))
    (stack : outer = around :: further)
    (runs : RunsUntil p config (kind.Closes p around further) after last) :
    RunsUntil p config (kind.Closes p around further) machine last := by
  subst stack
  exact runs.prepend (continues_of_rounds entered enters round through leaves
    (fun closes => opens closes.1) Within.not_closes)

end Whole

end Rounds

end LoopKind

end LineBasic

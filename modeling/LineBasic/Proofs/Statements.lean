import LineBasic.Proofs.Fetching
import LineBasic.Proofs.ReadingOn

/-!
# What statements read and what they leave alone

Statements read on from their first token: each token they fetch comes behind the ones
they have passed. Here this is said of each of them, together with what they leave of
the state: PRINT moves the cursor only, an assignment and INPUT leave loops, calls and
labels alone, and no statement changes the labels or the place that is noted for the
statement. All of it also holds where a statement fails.

`Fetching.Scans` is about a statement on a machine that notes what is fetched, beside the same
statement on a machine. `Exec.Scans` is what it says of the machine alone.
-/

namespace LineBasic

/-! ### What a statement leaves alone -/

/-- The labels, the loops and the calls are the same. -/
structure State.SameStacks (before after : State) : Prop where
  labels : after.labels = before.labels
  forStack : after.forStack = before.forStack
  gosubStack : after.gosubStack = before.gosubStack
  repeatStack : after.repeatStack = before.repeatStack

/-- The labels, the loops, the calls and the place of the statement are the same. -/
structure State.SameControl (before after : State) : Prop extends before.SameStacks after where
  statementStart : after.statementStart = before.statementStart

/-- The labels and the place of the statement are the same. -/
structure State.Fixed (before after : State) : Prop where
  labels : after.labels = before.labels
  statementStart : after.statementStart = before.statementStart

namespace State

variable {before between after : State}

theorem SameStacks.refl (state : State) : state.SameStacks state := ⟨rfl, rfl, rfl, rfl⟩

theorem SameStacks.trans (same : before.SameStacks between) (further : between.SameStacks after) :
    before.SameStacks after where
  labels := further.labels.trans same.labels
  forStack := further.forStack.trans same.forStack
  gosubStack := further.gosubStack.trans same.gosubStack
  repeatStack := further.repeatStack.trans same.repeatStack

theorem SameControl.refl (state : State) : state.SameControl state := ⟨.refl state, rfl⟩

theorem SameControl.trans (same : before.SameControl between)
    (further : between.SameControl after) : before.SameControl after where
  toSameStacks := same.toSameStacks.trans further.toSameStacks
  statementStart := further.statementStart.trans same.statementStart

theorem Moved.sameControl (moved : before.Moved after) : before.SameControl after := by
  obtain ⟨cursor, rfl⟩ := moved
  exact ⟨⟨rfl, rfl, rfl, rfl⟩, rfl⟩

theorem Fixed.refl (state : State) : state.Fixed state := ⟨rfl, rfl⟩

theorem Fixed.trans (fixed : before.Fixed between) (further : between.Fixed after) :
    before.Fixed after where
  labels := further.labels.trans fixed.labels
  statementStart := further.statementStart.trans fixed.statementStart

theorem SameControl.fixed (same : before.SameControl after) : before.Fixed after :=
  ⟨same.labels, same.statementStart⟩

theorem Moved.fixed (moved : before.Moved after) : before.Fixed after := moved.sameControl.fixed

end State

/-! ### Fetching by reading on -/

theorem Program.Passes.offsetsUpTo {p : Program} {offset reached count : Nat}
    {tokens : List Token} {last : Reading} (passes : p.Passes (p.read offset) tokens last)
    (member : reached ∈ p.offsetsUpTo last.start count offset) :
    ∃ tokens, p.Passes (p.read offset) tokens (p.read reached) := by
  induction count generalizing offset tokens with
  | zero => cases member
  | succ count ih =>
    rw [Program.offsetsUpTo] at member
    split at member
    next before =>
      rcases List.mem_cons.mp member with rfl | further
      · exact ⟨[], .done _⟩
      · -- the token here starts before the last one, so it has been passed
        cases passes with
        | done => omega
        | pass found going rest =>
          obtain ⟨others, behind⟩ := ih rest further
          exact ⟨_, .pass found going behind⟩
    next =>
      rw [List.mem_singleton.mp member]
      exact ⟨[], .done _⟩

namespace Fetching

open Exec hiding Scans scans_pure scans_throw scans_next scans_evaluate
open Statement Machine

variable {σ α β : Type} {p : Program} {first : Reading} {same : State → State → Prop}

/-- The first computation is the second one with a note of what it fetches, which is nothing. -/
structure Quiet (noted : ExecOn (Fetching σ) α) (plain : Exec σ α) : Prop where
  erases : Erases noted plain
  fetched : ∀ before, (finalState (noted before)).fetched = before.fetched

/-- The first computation is the second one with a note of what it fetches. If it starts behind
`first`, this is what has been noted before and tokens that come behind `first`. -/
structure Reads (p : Program) (first : Reading) (noted : ExecOn (Fetching σ) α)
    (plain : Exec σ α) : Prop where
  erases : Erases noted plain
  passes : ∀ ⦃before⦄, p.Ahead first before.machine.state.cursor →
    ∀ offset ∈ (finalState (noted before)).fetched,
      offset ∈ before.fetched ∨ ∃ tokens, p.Passes first tokens (p.read offset)

/-- Behind the token `first`, the computation reads on and fetches no other tokens. -/
structure Scans (p : Program) (first : Reading) (same : State → State → Prop)
    (noted : ExecOn (Fetching σ) α) (plain : Exec σ α) : Prop extends
    Reads p first noted plain where
  exec : Exec.Scans p first same plain

section Sequences

variable {noted : ExecOn (Fetching σ) α} {plain : Exec σ α} {next : α → ExecOn (Fetching σ) β}
  {next' : α → Exec σ β}

theorem quiet_pure (value : α) : Quiet (pure value : ExecOn (Fetching σ) α) (pure value) :=
  ⟨fun _ => rfl, fun _ => rfl⟩

theorem quiet_throw (failure : Failure) :
    Quiet (throw failure : ExecOn (Fetching σ) α) (throw failure) :=
  ⟨fun _ => rfl, fun _ => rfl⟩

theorem quiet_quiet (exec : Exec σ α) : Quiet (quiet exec) exec where
  erases := erases_noting _ exec
  fetched := by
    rintro ⟨machine, fetched⟩
    rw [quiet, noting]
    cases exec machine <;> exact List.append_nil fetched

theorem Quiet.bind (quiet : Quiet noted plain) (goes : ∀ value, Quiet (next value) (next' value)) :
    Quiet (noted >>= next) (plain >>= next') where
  erases := quiet.erases.bind fun value => (goes value).erases
  fetched := by
    intro before
    have start := quiet.fetched before
    cases ran : noted before with
    | ok value between =>
      rw [ran] at start
      rw [bind_of_ok ran, (goes value).fetched]
      exact start
    | error failure between =>
      rw [ran] at start
      rw [bind_of_error ran]
      exact start

theorem Quiet.reads (quiet : Quiet noted plain) : Reads p first noted plain where
  erases := quiet.erases
  passes := by
    intro before _ offset member
    rw [quiet.fetched] at member
    exact .inl member

theorem Quiet.scans (quiet : Quiet noted plain) (scans : Exec.Scans p first same plain) :
    Scans p first same noted plain :=
  { quiet.reads with exec := scans }

theorem Scans.reads_bind (scans : Scans p first same noted plain)
    (goes : ∀ value, Reads p first (next value) (next' value)) :
    Reads p first (noted >>= next) (plain >>= next') where
  erases := scans.erases.bind fun value => (goes value).erases
  passes := by
    intro before ahead offset member
    have start := scans.passes ahead
    have erases := scans.erases before
    cases ran : noted before with
    | ok value between =>
      rw [ran] at start erases
      rw [bind_of_ok ran] at member
      -- what follows starts behind `first` as well
      have further := ((scans.exec ahead).of_ok erases.symm).2
      rcases (goes value).passes further offset member with early | late
      · exact start offset early
      · exact .inr late
    | error failure between =>
      rw [ran] at start
      rw [bind_of_error ran] at member
      exact start offset member

theorem Scans.bind
    (trans : ∀ {before between after}, same before between → same between after →
      same before after)
    (scans : Scans p first same noted plain)
    (goes : ∀ value, Scans p first same (next value) (next' value)) :
    Scans p first same (noted >>= next) (plain >>= next') :=
  { scans.reads_bind fun value => (goes value).toReads with
    exec := scans.exec.bind trans fun value => (goes value).exec }

theorem Scans.imp {weaker : State → State → Prop} (scans : Scans p first same noted plain)
    (imp : ∀ {before after}, same before after → weaker before after) :
    Scans p first weaker noted plain :=
  { scans with exec := scans.exec.imp imp }

/-- What fetches nothing more may follow, wherever it leads. -/
theorem Reads.bind_quiet (reads : Reads p first noted plain)
    (goes : ∀ value, Quiet (next value) (next' value)) :
    Reads p first (noted >>= next) (plain >>= next') where
  erases := reads.erases.bind fun value => (goes value).erases
  passes := by
    intro before ahead offset member
    have start := reads.passes ahead
    cases ran : noted before with
    | ok value between =>
      rw [bind_of_ok ran, (goes value).fetched] at member
      rw [ran] at start
      exact start offset member
    | error failure between =>
      rw [bind_of_error ran] at member
      rw [ran] at start
      exact start offset member

end Sequences

/-! ### Single operations -/

theorem scans_quiet {exec : Exec σ α} (scans : Exec.Scans p first same exec) :
    Scans p first same (quiet exec) exec :=
  (quiet_quiet exec).scans scans

theorem scans_pure (refl : ∀ state, same state state) (value : α) :
    Scans p first same (pure value : ExecOn (Fetching σ) α) (pure value) :=
  (quiet_pure value).scans (Exec.scans_pure refl value)

theorem scans_throw (refl : ∀ state, same state state) (failure : Failure) :
    Scans p first same (throw failure : ExecOn (Fetching σ) α) (throw failure) :=
  (quiet_throw failure).scans (Exec.scans_throw refl failure)

theorem scans_next (reading : p.IsReading first) :
    Scans p first State.Moved (next p : ExecOn (Fetching σ) Token) (next p) where
  erases := erases_noting _ _
  passes := by
    intro before ahead offset member
    refine (mem_fetched_noting.mp member).imp_right fun here => ?_
    rw [List.mem_singleton.mp here]
    exact ahead.passes reading
  exec := Exec.scans_next reading

theorem scans_evaluate (reading : p.IsReading first) :
    Scans p first State.Moved (evaluate p : ExecOn (Fetching σ) Float) (evaluate p) where
  erases := erases_noting _ _
  passes := by
    intro before ahead offset member
    refine (mem_fetched_noting.mp member).imp_right fun fetched => ?_
    obtain ⟨tokens, passes⟩ := ahead.passes reading
    -- however the expression ends, the token then in hand follows its first
    obtain ⟨last, ⟨others, behind, -⟩, upTo⟩ : ∃ last,
        p.Follows (p.read before.machine.state.cursor.offset) last ∧
        offset ∈ p.offsetsUpTo last.start (p.length + 1) before.machine.state.cursor.offset := by
      have stays := Expression.start_stays p before.machine.state.store
        (.refl (p.read before.machine.state.cursor.offset))
      dsimp only at fetched
      split at fetched
      next ran => exact ⟨_, stays.of_ok ran, fetched⟩
      next ran => exact ⟨_, stays.of_error ran, fetched⟩
    obtain ⟨further, reached⟩ := behind.offsetsUpTo upTo
    exact ⟨_, passes.append reached⟩
  exec := Exec.scans_evaluate reading

/-! ### Parts of statements -/

theorem scans_ofExcept (result : Except Failure α) :
    Scans p first State.Moved (MonadExcept.ofExcept result : ExecOn (Fetching σ) α)
      (MonadExcept.ofExcept result) := by
  cases result with
  | ok value => exact scans_pure .refl value
  | error failure => exact scans_throw .refl failure

theorem scans_require {condition : Prop} [Decidable condition]
    {next : Unit → ExecOn (Fetching σ) α} {next' : Unit → Exec σ α}
    (refl : ∀ state, same state state) (failure : Failure)
    (goes : Scans p first same (next ()) (next' ())) :
    Scans p first same (if condition then next () else throw failure >>= next)
      (if condition then next' () else throw failure >>= next') := by
  by_cases met : condition
  · rw [if_pos met, if_pos met]
    exact goes
  · rw [if_neg met, if_neg met]
    exact scans_throw refl failure

theorem scans_write [Console σ] (text : String) :
    Scans p first State.Moved (write text : ExecOn (Fetching σ) Unit) (write text) :=
  scans_quiet (scans_onConsole _ _)

theorem scans_giveBack :
    Scans p first State.Moved (giveBack : ExecOn (Fetching σ) Unit) giveBack :=
  scans_quiet Exec.scans_giveBack

theorem scans_getState (refl : ∀ state, same state state) :
    Scans p first same (getState : ExecOn (Fetching σ) State) getState :=
  scans_quiet (Exec.scans_getState refl)

theorem scans_modifyState {change : State → State}
    (kept : ∀ state, same state (change state) ∧ (change state).cursor = state.cursor) :
    Scans p first same (modifyState change : ExecOn (Fetching σ) Unit) (modifyState change) :=
  scans_quiet (Exec.scans_modifyState kept)

theorem scans_assign (letter : Letter) (value : Float) :
    Scans p first State.SameControl (assign letter value : ExecOn (Fetching σ) Unit)
      (assign letter value) :=
  scans_modifyState fun _ => ⟨⟨⟨rfl, rfl, rfl, rfl⟩, rfl⟩, rfl⟩

section Parts

variable (reading : p.IsReading first)

include reading

theorem scans_expectVariable :
    Scans p first State.Moved (expectVariable p : ExecOn (Fetching σ) Letter)
      (expectVariable p) := by
  apply (scans_next reading).bind .trans
  intro token
  cases token with
  | name text => exact scans_ofExcept _
  | _ => exact scans_throw .refl _

theorem scans_optionalVariable :
    Scans p first State.Moved (optionalVariable p : ExecOn (Fetching σ) (Option Letter))
      (optionalVariable p) := by
  apply (scans_next reading).bind .trans
  intro token
  cases token with
  | name text =>
    dsimp only
    rw [map_eq_pure_bind, map_eq_pure_bind]
    exact (scans_ofExcept _).bind .trans fun letter => scans_pure .refl _
  | _ => exact scans_giveBack.bind .trans fun _ => scans_pure .refl none

theorem scans_expectEqualSign :
    Scans p first State.Moved (expectEqualSign p : ExecOn (Fetching σ) Unit)
      (expectEqualSign p) :=
  (scans_next reading).bind .trans fun _ =>
    scans_require .refl .equalSignExpected (scans_pure .refl ())

theorem scans_expectLabel :
    Scans p first State.Moved (expectLabel p : ExecOn (Fetching σ) Nat) (expectLabel p) := by
  apply (scans_next reading).bind .trans
  intro token
  cases token with
  | number label | name label =>
    apply (scans_getState .refl).bind .trans
    intro state
    cases state.labels.find? label with
    | some offset => exact scans_pure .refl offset
    | none => exact scans_throw .refl _
  | _ => exact scans_throw .refl _

/-! ### Assignment, PRINT and INPUT -/

theorem scans_assignment :
    Scans p first State.SameControl (assignment p : ExecOn (Fetching σ) Unit)
      (assignment p) := by
  apply ((scans_expectVariable reading).imp State.Moved.sameControl).bind .trans
  intro letter
  apply ((scans_expectEqualSign reading).imp State.Moved.sameControl).bind .trans
  intro _
  apply ((scans_evaluate reading).imp State.Moved.sameControl).bind .trans
  intro value
  exact scans_assign letter value

theorem scans_printItem (token : Token) :
    Scans p first State.Moved (printItem p token : ExecOn (Fetching σ) String)
      (printItem p token) := by
  cases token with
  | quoted text => exact scans_pure .refl text
  | _ =>
    exact scans_giveBack.bind .trans fun _ =>
      (scans_evaluate reading).bind .trans fun _ => scans_pure .refl _

variable [Console σ]

theorem scans_printFrom (config : Config) (items column : Nat) (separated : Bool) :
    Scans p first State.Moved
      (printFrom p config items column separated : ExecOn (Fetching σ) Unit)
      (printFrom p config items column separated) := by
  induction items generalizing column separated with
  | zero => exact scans_pure .refl ()
  | succ items ih =>
    rw [printFrom, printFrom]
    apply (scans_next reading).bind .trans
    intro token
    by_cases ends : token.endsLine
    · rw [if_pos ends, if_pos ends]
      cases separated with
      | true => exact scans_pure .refl ()
      | false => exact scans_write _
    · rw [if_neg ends, if_neg ends]
      apply (scans_printItem reading token).bind .trans
      intro text
      apply (scans_write text).bind .trans
      intro _
      apply (scans_next reading).bind .trans
      intro separator
      -- behind an item there is a separator or the end of the line
      have last : ∀ token : Token, Scans p first State.Moved
          (if token.endsLine then write "\n" else throw .malformed : ExecOn (Fetching σ) Unit)
          (if token.endsLine then write "\n" else throw .malformed) := by
        intro token
        split
        · exact scans_write _
        · exact scans_throw .refl _
      cases separator with
      | delimiter sign =>
        cases sign with
        | comma | semicolon => exact (scans_write _).bind .trans fun _ => ih _ true
        | _ => exact last _
      | _ => exact last _

theorem scans_prompt (config : Config) :
    Scans p first State.Moved (prompt p config : ExecOn (Fetching σ) Unit)
      (prompt p config) := by
  apply (scans_next reading).bind .trans
  intro token
  cases token with
  | quoted text =>
    refine (scans_write text).bind .trans fun _ => ?_
    refine (scans_next reading).bind .trans fun _ => ?_
    exact scans_require .refl .malformed (scans_pure .refl ())
  | _ => exact scans_giveBack.bind .trans fun _ => scans_write _

theorem scans_input (config : Config) :
    Scans p first State.SameControl (input p config : ExecOn (Fetching σ) Unit)
      (input p config) := by
  have onConsole : ∀ {α : Type} (cause : String → Failure) (call : EStateM String σ α),
      Scans p first State.SameControl (quiet (onConsole cause call)) (onConsole cause call) :=
    fun cause call => scans_quiet ((scans_onConsole cause call).imp State.Moved.sameControl)
  apply ((scans_prompt reading config).imp State.Moved.sameControl).bind .trans
  intro _
  apply ((scans_expectVariable reading).imp State.Moved.sameControl).bind .trans
  intro letter
  apply (onConsole _ _).bind .trans
  intro _
  apply (onConsole _ _).bind .trans
  intro line
  cases line with
  | none => exact scans_throw .refl _
  | some line =>
    dsimp only
    cases Number.parse? (Text.trim line.toList) with
    | some value => exact scans_assign letter value
    | none =>
      refine ((scans_write _).imp State.Moved.sameControl).bind .trans fun _ => ?_
      exact scans_modifyState fun _ => ⟨⟨⟨rfl, rfl, rfl, rfl⟩, rfl⟩, rfl⟩

end Parts

/-! ### Jumps and loops -/

theorem scans_change_then {change : State → State} {next : Unit → ExecOn (Fetching σ) α}
    {next' : Unit → Exec σ α}
    (kept : ∀ state, state.Fixed (change state) ∧ (change state).cursor = state.cursor)
    (goes : Scans p first State.Fixed (next ()) (next' ())) :
    Scans p first State.Fixed (modifyState change >>= next) (modifyState change >>= next') :=
  (scans_modifyState kept).bind .trans fun _ => goes

theorem scans_returnFromSub :
    Scans p first State.Fixed (returnFromSub : ExecOn (Fetching σ) Flow) returnFromSub := by
  apply (scans_getState .refl).bind .trans
  intro state
  cases state.gosubStack with
  | nil => exact scans_throw .refl _
  | cons target rest => exact scans_change_then (fun _ => ⟨⟨rfl, rfl⟩, rfl⟩) (scans_pure .refl _)

section Control

variable (reading : p.IsReading first)

include reading

theorem scans_goto :
    Scans p first State.Moved (goto p : ExecOn (Fetching σ) Flow) (goto p) :=
  (scans_expectLabel reading).bind .trans fun _ => scans_pure .refl _

theorem scans_callSub :
    Scans p first State.Fixed (callSub p : ExecOn (Fetching σ) Flow) (callSub p) := by
  apply ((scans_expectLabel reading).imp State.Moved.fixed).bind .trans
  intro target
  exact scans_change_then (fun _ => ⟨⟨rfl, rfl⟩, rfl⟩) (scans_pure .refl _)

/-- An IF that does not hold skips to the next line, but does not read there. -/
theorem reads_branch : Reads p first (branch p : ExecOn (Fetching σ) Unit) (branch p) := by
  apply (scans_evaluate reading).reads_bind
  intro value
  by_cases holds : (value != 0.0) = true
  · rw [if_pos holds, if_pos holds]
    refine (scans_next reading).reads_bind fun token => ?_
    exact (scans_require .refl .thenExpected (scans_pure State.Moved.refl ())).toReads
  · rw [if_neg holds, if_neg holds]
    exact (quiet_quiet _).reads

theorem scans_skipToNext (tokens : Nat) :
    Scans p first State.Moved (skipToNext p tokens : ExecOn (Fetching σ) Unit)
      (skipToNext p tokens) := by
  induction tokens with
  | zero => exact scans_pure .refl ()
  | succ tokens ih =>
    rw [skipToNext, skipToNext]
    apply (scans_next reading).bind .trans
    intro token
    cases token with
    | endOfProgram => exact scans_pure .refl ()
    | keyword word =>
      cases word with
      | NEXT => exact (scans_optionalVariable reading).bind .trans fun _ => scans_pure .refl ()
      | _ => exact ih
    | _ => exact ih

theorem scans_enterFor :
    Scans p first State.Fixed (enterFor p : ExecOn (Fetching σ) Unit) (enterFor p) := by
  apply ((scans_expectVariable reading).imp State.Moved.fixed).bind .trans
  intro letter
  apply ((scans_expectEqualSign reading).imp State.Moved.fixed).bind .trans
  intro _
  apply ((scans_evaluate reading).imp State.Moved.fixed).bind .trans
  intro start
  refine scans_change_then (fun _ => ⟨⟨rfl, rfl⟩, rfl⟩) ?_
  apply ((scans_next reading).imp State.Moved.fixed).bind .trans
  intro token
  apply scans_require .refl .toExpected
  apply ((scans_evaluate reading).imp State.Moved.fixed).bind .trans
  intro target
  by_cases entered : start ≤ target
  · rw [if_pos entered, if_pos entered]
    exact scans_modifyState fun _ => ⟨⟨rfl, rfl⟩, rfl⟩
  · rw [if_neg entered, if_neg entered]
    exact (scans_skipToNext reading _).imp State.Moved.fixed

theorem scans_endFor :
    Scans p first State.Fixed (endFor p : ExecOn (Fetching σ) Flow) (endFor p) := by
  apply ((scans_optionalVariable reading).imp State.Moved.fixed).bind .trans
  intro named
  apply (scans_getState .refl).bind .trans
  intro state
  dsimp only
  cases state.forStack with
  | nil => exact scans_throw .refl _
  | cons frame outer =>
    refine scans_change_then (fun _ => ⟨⟨rfl, rfl⟩, rfl⟩) ?_
    apply scans_require .refl .nextWithoutFor
    apply (scans_getState .refl).bind .trans
    intro state
    refine scans_change_then (fun _ => ⟨⟨rfl, rfl⟩, rfl⟩) ?_
    split
    · exact scans_pure .refl _
    · exact scans_change_then (fun _ => ⟨⟨rfl, rfl⟩, rfl⟩) (scans_pure .refl _)

theorem scans_endRepeat :
    Scans p first State.Fixed (endRepeat p : ExecOn (Fetching σ) Flow) (endRepeat p) := by
  apply (scans_getState .refl).bind .trans
  intro state
  cases state.repeatStack with
  | nil => exact scans_throw .refl _
  | cons start outer =>
    refine scans_change_then (fun _ => ⟨⟨rfl, rfl⟩, rfl⟩) ?_
    apply ((scans_evaluate reading).imp State.Moved.fixed).bind .trans
    intro value
    split
    · exact scans_change_then (fun _ => ⟨⟨rfl, rfl⟩, rfl⟩) (scans_pure .refl _)
    · exact scans_pure .refl _

/-- All statements but IF read on. -/
theorem scans_perform [Console σ] (config : Config) {word : Keyword} (other : word ≠ .IF) :
    Scans p first State.Fixed (perform p config word : ExecOn (Fetching σ) Flow)
      (perform p config word) := by
  have onward : ∀ {noted : ExecOn (Fetching σ) Unit} {plain : Exec σ Unit},
      Scans p first State.Fixed noted plain →
        Scans p first State.Fixed (do noted; return Flow.onward) (do plain; return Flow.onward) :=
    fun scans => scans.bind .trans fun _ => scans_pure .refl _
  cases word with
  | PRINT => exact onward ((scans_printFrom reading config _ 0 false).imp State.Moved.fixed)
  | INPUT => exact onward ((scans_input reading config).imp State.SameControl.fixed)
  | IF => exact absurd rfl other
  | FOR => exact onward (scans_enterFor reading)
  | REPEAT => exact scans_change_then (fun _ => ⟨⟨rfl, rfl⟩, rfl⟩) (scans_pure .refl _)
  | THEN | TO | END => exact scans_pure .refl _
  | GOTO => exact (scans_goto reading).imp State.Moved.fixed
  | GOSUB => exact scans_callSub reading
  | RETURN => exact scans_returnFromSub
  | NEXT => exact scans_endFor reading
  | UNTIL => exact scans_endRepeat reading

theorem reads_perform [Console σ] (config : Config) (word : Keyword) :
    Reads p first (perform p config word : ExecOn (Fetching σ) Flow) (perform p config word) := by
  by_cases isIf : word = .IF
  · subst isIf
    exact (reads_branch reading).bind_quiet fun _ => quiet_pure _
  · exact (scans_perform reading config isIf).toReads

end Control

/-! ### Steps -/

theorem quiet_follow (p : Program) (flow : Flow) :
    Quiet (follow p flow : ExecOn (Fetching σ) Progress) (follow p flow) := by
  cases flow with
  | onward | halt => exact quiet_pure _
  | jump target =>
    exact (quiet_quiet _).bind fun _ => (quiet_quiet _).bind fun _ => quiet_pure _

/-- What a statement does in a step, behind the keyword. -/
theorem reads_statement [Console σ] (reading : p.IsReading first) (config : Config)
    (word : Keyword) :
    Reads p first (do follow p (← perform p config word) : ExecOn (Fetching σ) Progress)
      (do follow p (← perform p config word)) :=
  (reads_perform reading config word).bind_quiet fun flow => quiet_follow p flow

/-- A step does the same to a machine whatever has been noted. -/
theorem erases_step [Console σ] (p : Program) (config : Config) :
    Erases (step p config : ExecOn (Fetching σ) Progress) (step p config) := by
  have reading : p.IsReading (p.read 0) := ⟨0, rfl⟩
  apply (scans_next reading).erases.bind
  intro token
  cases token with
  | name text =>
    refine (quiet_quiet giveBack).erases.bind fun _ => ?_
    refine (quiet_quiet markStatement).erases.bind fun _ => ?_
    exact (scans_assignment reading).erases.bind fun _ => (quiet_pure _).erases
  | keyword word =>
    refine (quiet_quiet markStatement).erases.bind fun _ => ?_
    exact (reads_statement reading config word).erases
  | endOfProgram | delimiter | endOfLine | number | quoted => exact (quiet_pure _).erases

/-- All tokens that a step fetches come one behind the other from the cursor on. -/
theorem passes_of_fetchedBy_step [Console σ] {config : Config} {machine : Machine σ}
    {offset : Nat} (fetched : offset ∈ fetchedBy (step p config) machine) :
    ∃ tokens, p.Passes (machine.state.reading p) tokens (p.read offset) := by
  have reading : p.IsReading (machine.state.reading p) := ⟨_, rfl⟩
  -- the first token is the one at the cursor
  have start : ∀ offset ∈
      (finalState ((next p : ExecOn (Fetching σ) Token) ⟨machine, []⟩)).fetched,
      ∃ tokens, p.Passes (machine.state.reading p) tokens (p.read offset) := by
    intro offset member
    rcases mem_fetched_noting.mp member with none | here
    · cases none
    · rw [List.mem_singleton.mp here]
      exact ⟨[], .done _⟩
  have first := (scans_next reading).erases ⟨machine, []⟩
  rw [fetchedBy] at fetched
  cases ran : (next p : ExecOn (Fetching σ) Token) ⟨machine, []⟩ with
  | error failure between =>
    rw [ran] at start
    rw [step, bind_of_error ran] at fetched
    exact start offset fetched
  | ok token between =>
    obtain ⟨_, noted⟩ := between
    rw [ran] at start first
    obtain ⟨found, rfl⟩ := next_eq_ok first.symm
    rw [step, bind_of_ok ran] at fetched
    cases token with
    | name text =>
      have reads := (scans_assignment reading).toReads.bind_quiet fun _ =>
        quiet_pure (σ := σ) Progress.moved
      rcases reads.passes (.before (.done _) found) offset fetched with early | late
      · have noted : offset ∈ noted := by simpa using early
        exact start offset noted
      · exact late
    | keyword word =>
      have reads := reads_statement (σ := σ) reading config word
      rcases reads.passes (.behind (.done _) found) offset fetched with early | late
      · have noted : offset ∈ noted := by simpa using early
        exact start offset noted
      · exact late
    | endOfProgram | delimiter | endOfLine | number | quoted => exact start offset fetched

end Fetching

/-! ### Without the note -/

namespace Statement

variable {σ : Type} {p : Program} {first : Reading} (reading : p.IsReading first)

include reading

theorem scans_optionalVariable :
    Exec.Scans p first State.Moved (optionalVariable p : Exec σ (Option Letter)) :=
  (Fetching.scans_optionalVariable reading).exec

theorem scans_assignment :
    Exec.Scans p first State.SameControl (assignment p : Exec σ Unit) :=
  (Fetching.scans_assignment reading).exec

theorem scans_printItem (token : Token) :
    Exec.Scans p first State.Moved (printItem p token : Exec σ String) :=
  (Fetching.scans_printItem reading token).exec

theorem scans_print [Console σ] (config : Config) :
    Exec.Scans p first State.Moved (print p config : Exec σ Unit) :=
  (Fetching.scans_printFrom reading config (p.length + 1) 0 false).exec

theorem scans_input [Console σ] (config : Config) :
    Exec.Scans p first State.SameControl (input p config : Exec σ Unit) :=
  (Fetching.scans_input reading config).exec

theorem scans_skipToNext (tokens : Nat) :
    Exec.Scans p first State.Moved (skipToNext p tokens : Exec σ Unit) :=
  (Fetching.scans_skipToNext reading tokens).exec

theorem scans_enterFor : Exec.Scans p first State.Fixed (enterFor p : Exec σ Unit) :=
  (Fetching.scans_enterFor reading).exec

theorem scans_perform [Console σ] (config : Config) {word : Keyword} (other : word ≠ .IF) :
    Exec.Scans p first State.Fixed (perform p config word : Exec σ Flow) :=
  (Fetching.scans_perform reading config other).exec

end Statement

end LineBasic

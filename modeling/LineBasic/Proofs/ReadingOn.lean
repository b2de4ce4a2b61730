import LineBasic.Proofs.Acceptance
import LineBasic.Proofs.Lines
import LineBasic.Statement

/-!
# Reading on

A statement moves the cursor by reading on: it passes one token after the other and
gives back at most the last. Only an IF that does not hold also skips characters.

`Program.Follows` relates two readings with tokens of one line between them. An
expression is read this way, whether it has a value or fails. `Program.Ahead`
describes the cursors that reading on from a token can come to, over any number of
lines, and `Exec.Scans` says of a computation that it leads from such cursors to such
cursors and touches nothing else of the state, or only what a relation on states
allows it to touch.
-/

namespace LineBasic

namespace Program

variable {p : Program} {first middle last : Reading} {token : Token}

/-! ### Tokens of one line -/

/-- With `first` in hand, tokens of one line are passed until `last` is in hand. -/
def Follows (p : Program) (first last : Reading) : Prop :=
  ∃ tokens, p.Passes first tokens last ∧ .endOfLine ∉ tokens

theorem Follows.refl (reading : Reading) : p.Follows reading reading :=
  ⟨[], .done reading, by simp⟩

theorem Follows.trans (follows : p.Follows first middle) (further : p.Follows middle last) :
    p.Follows first last := by
  obtain ⟨tokens, passes, within⟩ := follows
  obtain ⟨others, behind, alsoWithin⟩ := further
  exact ⟨tokens ++ others, passes.append behind, by simp [within, alsoWithin]⟩

theorem follows_next (found : first.found = .ok token) (going : token ≠ .endOfProgram)
    (within : token ≠ .endOfLine) : p.Follows first (p.read first.stop) :=
  ⟨[token], .single found going, by simpa using within.symm⟩

/-- Tokens of one line are followed by the same next line. -/
theorem Follows.nextLine {offset : Nat} (follows : p.Follows (p.read offset) last) :
    offset + lineWidth (p.rest offset) = last.start + lineWidth (p.rest last.start) := by
  obtain ⟨tokens, passes, within⟩ := follows
  induction tokens generalizing offset with
  | nil =>
    cases passes
    exact p.nextLine_start offset
  | cons token tokens ih =>
    simp only [List.mem_cons, not_or] at within
    cases passes with
    | pass found going rest =>
      rw [nextLine_of_token found going (Ne.symm within.1)]
      exact ih rest within.2

end Program

/-! ### Expressions -/

namespace Expression

variable {p : Program} {α β : Type} {first middle : Reading} {token : Token}

/-- However a rule ends, the token in hand follows `first`. -/
def Along (p : Program) (first : Reading) : EStateM.Result Failure Reading α → Prop :=
  Leaves (fun _ last => p.Follows first last) fun _ last => p.Follows first last

/-- The rule passes only tokens of the line. -/
def StaysOnLine (p : Program) (rule : Rule α) : Prop :=
  ∀ ⦃first middle⦄, p.Follows first middle → Along p first (rule middle)

theorem along_current {next : Token → Rule β} (follows : p.Follows first middle)
    (goes : ∀ token, middle.found = .ok token → Along p first (next token middle)) :
    Along p first ((current >>= next) middle) := by
  cases found : middle.found with
  | ok token =>
    rw [bind_of_ok (current_ok found)]
    exact goes token found
  | error failure =>
    have failed : current middle = .error failure middle := by rw [current, found]
    rw [bind_of_error failed]
    exact .error follows

theorem along_advance (follows : p.Follows first middle) (found : middle.found = .ok token)
    (going : token ≠ .endOfProgram) (within : token ≠ .endOfLine) :
    Along p first (advance p middle) := by
  have next := follows.trans (Program.follows_next found going within)
  rw [advance_eq]
  cases (p.read middle.stop).found with
  | ok => exact .ok next
  | error => exact .error next

section Chains

variable {operand : Rule Float}

theorem rightChain_stays {operation : Token → Option (Float → Float → Float)}
    (signs : ∀ token apply, operation token = some apply → ∃ sign, token = .delimiter sign)
    (stays : StaysOnLine p operand) (links : Nat) :
    StaysOnLine p (rightChain p operation links operand) := by
  induction links with
  | zero =>
    intro first middle follows
    exact .error follows
  | succ links ih =>
    intro first middle follows
    rw [rightChain]
    apply (stays follows).bind
    intro left last behind
    apply along_current behind
    intro token found
    cases known : operation token with
    | none => exact .ok behind
    | some apply =>
      obtain ⟨sign, rfl⟩ := signs token apply known
      apply (along_advance behind found (by simp) (by simp)).bind
      intro _ next further
      exact (ih further).bind fun right last reached => .ok reached

theorem leftChainFrom_stays {operation : Token → Option Operation}
    (signs : ∀ token apply, operation token = some apply → ∃ sign, token = .delimiter sign)
    (stays : StaysOnLine p operand) (links : Nat) (value : Float) :
    StaysOnLine p (leftChainFrom p operation operand links value) := by
  induction links generalizing value with
  | zero =>
    intro first middle follows
    exact .ok follows
  | succ links ih =>
    intro first middle follows
    rw [leftChainFrom]
    apply along_current follows
    intro token found
    cases known : operation token with
    | none => exact .ok follows
    | some apply =>
      obtain ⟨sign, rfl⟩ := signs token apply known
      apply (along_advance follows found (by simp) (by simp)).bind
      intro _ next further
      apply (stays further).bind
      intro right last behind
      cases apply value right with
      | ok result => exact ih result behind
      | error failure => exact .error behind

theorem leftChain_stays {operation : Token → Option Operation}
    (signs : ∀ token apply, operation token = some apply → ∃ sign, token = .delimiter sign)
    (stays : StaysOnLine p operand) (links : Nat) :
    StaysOnLine p (leftChain p operation links operand) := by
  intro first middle follows
  rw [leftChain]
  apply (stays follows).bind
  intro value last behind
  exact leftChainFrom_stays signs stays links value behind

end Chains

theorem primary_stays (store : Store) {inner : Rule Float} (stays : StaysOnLine p inner) :
    StaysOnLine p (primary p store inner) := by
  intro first middle follows
  rw [primary]
  apply along_current follows
  intro token found
  by_cases opens : token = .delimiter .leftParen
  · rw [if_pos opens]
    apply (along_advance follows found (by simp [opens]) (by simp [opens])).bind
    intro _ next further
    apply (stays further).bind
    intro value last behind
    apply along_current behind
    intro closing foundClosing
    by_cases closes : closing = .delimiter .rightParen
    · rw [if_pos closes]
      apply (along_advance behind foundClosing (by simp [closes]) (by simp [closes])).bind
      exact fun _ _ reached => .ok reached
    · rw [if_neg closes]
      exact .error behind
  · rw [if_neg opens]
    cases known : atom? store token with
    | none => exact .error follows
    | some value =>
      -- only numbers and names have a value
      have going : token ≠ .endOfProgram := by rintro rfl; cases known
      have within : token ≠ .endOfLine := by rintro rfl; cases known
      exact (along_advance follows found going within).bind fun _ _ reached => .ok reached

theorem signed_stays {operand : Rule Float} (stays : StaysOnLine p operand) :
    StaysOnLine p (signed p operand) := by
  intro first middle follows
  rw [signed]
  apply along_current follows
  intro token found
  cases known : sign? token with
  | none => exact stays follows
  | some negative =>
    have going : token ≠ .endOfProgram := by rintro rfl; cases known
    have within : token ≠ .endOfLine := by rintro rfl; cases known
    apply (along_advance follows found going within).bind
    intro _ next further
    exact (stays further).bind fun value last reached => .ok reached

theorem expression_stays (p : Program) (store : Store) (budget : Nat) :
    StaysOnLine p (expression p store budget) := by
  induction budget with
  | zero =>
    intro first middle follows
    exact .error follows
  | succ budget ih =>
    -- from the strongest rule to the weakest, each with the one before as its operand
    have operand := signed_stays (primary_stays store ih)
    have power : StaysOnLine p (powerRule p store budget (budget + 1)) := by
      refine rightChain_stays ?_ operand (budget + 1)
      intro token apply known
      cases token <;> simp_all [power?]
    have product : StaysOnLine p (productRule p store budget) := by
      refine leftChain_stays ?_ power (budget + 1)
      intro token apply known
      cases token <;> simp_all [multiplicative?]
    have sum : StaysOnLine p (sumRule p store budget) := by
      refine leftChain_stays ?_ product (budget + 1)
      intro token apply known
      cases token <;> simp_all [additive?]
    refine rightChain_stays ?_ sum (budget + 1)
    intro token apply known
    cases token <;> simp_all [comparison?]

theorem start_stays (p : Program) (store : Store) : StaysOnLine p (start p store) := by
  intro first middle follows
  rw [start]
  apply along_current follows
  intro token found
  by_cases ends : token = .endOfProgram
  · rw [if_pos ends]
    exact .error follows
  · rw [if_neg ends]
    exact expression_stays p store _ follows

/-- An expression that has a value is followed by a token; one that fails does so at a
token of its line. -/
theorem evaluate_follows (p : Program) (store : Store) (cursor : Cursor) :
    Leaves
      (fun _ after => ∃ last token, p.Follows (p.read cursor.offset) last ∧
        last.found = .ok token ∧ after = .before last)
      (fun _ after => ∃ last, p.Follows (p.read cursor.offset) last ∧ after = .behind last)
      (evaluate p store cursor) := by
  have stays := start_stays p store (.refl (p.read cursor.offset))
  rw [evaluate]
  cases ran : start p store (p.read cursor.offset) with
  | ok value last =>
    obtain ⟨tree, -, -, token, found, -⟩ := start_accepts ran
    exact .ok ⟨last, token, stays.of_ok ran, found, rfl⟩
  | error failure last => exact .error ⟨last, stays.of_error ran, rfl⟩

end Expression

/-! ### Cursors -/

namespace Program

variable {p : Program} {first : Reading} {cursor : Cursor}

/-- The cursors that reading on from `first` comes to: behind a token, or in front of one
that has been read and given back. -/
inductive Ahead (p : Program) (first : Reading) : Cursor → Prop
  | behind {tokens : List Token} {last : Reading} {token : Token}
      (passes : p.Passes first tokens last) (found : last.found = .ok token) :
      Ahead p first (.behind last)
  | before {tokens : List Token} {last : Reading} {token : Token}
      (passes : p.Passes first tokens last) (found : last.found = .ok token) :
      Ahead p first (.before last)

/-- Whatever is read next is read after the tokens that have been passed. -/
theorem Ahead.passes (ahead : p.Ahead first cursor) (reading : p.IsReading first) :
    ∃ tokens, p.Passes first tokens (p.read cursor.offset) := by
  cases ahead with
  | @behind tokens last token passes found =>
    obtain ⟨offset, rfl⟩ := passes.isReading reading
    by_cases ends : token = .endOfProgram
    · -- the end of the program takes no characters and is found again
      subst ends
      refine ⟨tokens, ?_⟩
      rw [Cursor.behind, stop_of_endOfProgram found, p.read_start offset]
      exact passes
    · exact ⟨tokens ++ [token], passes.append (.single found ends)⟩
  | @before tokens last token passes found =>
    obtain ⟨offset, rfl⟩ := passes.isReading reading
    refine ⟨tokens, ?_⟩
    rw [Cursor.before, p.read_start offset]
    exact passes

/-- What is read behind a token is not in front of it. -/
theorem Ahead.start_le (ahead : p.Ahead first cursor) (reading : p.IsReading first) :
    first.start ≤ cursor.offset := by
  cases ahead with
  | @behind tokens last token passes found =>
    have forward := passes.start_le reading
    obtain ⟨offset, rfl⟩ := passes.isReading reading
    exact forward.trans (p.start_le_stop offset)
  | before passes found => exact passes.start_le reading

theorem Follows.ahead {last : Reading} {token : Token} (follows : p.Follows first last)
    (found : last.found = .ok token) : p.Ahead first (.before last) := by
  obtain ⟨tokens, passes, -⟩ := follows
  exact .before passes found

theorem Ahead.giveBack (ahead : p.Ahead first cursor) : p.Ahead first cursor.giveBack := by
  cases ahead with
  | behind passes found => exact .before passes found
  | before passes found => exact .before passes found

end Program

/-! ### Single moves of a machine -/

namespace Machine

variable {σ : Type}

def withCursor (machine : Machine σ) (cursor : Cursor) : Machine σ :=
  { machine with state := { machine.state with cursor } }

end Machine

/-- The reading of the token at the cursor. -/
def State.reading (p : Program) (state : State) : Reading := p.read state.cursor.offset

namespace Machine

variable {σ : Type} (machine : Machine σ) (cursor other : Cursor)

@[simp] theorem withCursor_cursor : (machine.withCursor cursor).state.cursor = cursor := rfl

@[simp] theorem withCursor_store :
    (machine.withCursor cursor).state.store = machine.state.store := rfl

@[simp] theorem withCursor_reading (p : Program) :
    (machine.withCursor cursor).state.reading p = p.read cursor.offset := rfl

@[simp] theorem withCursor_withCursor :
    (machine.withCursor cursor).withCursor other = machine.withCursor other := rfl

end Machine

namespace Exec

variable {σ : Type} {p : Program} {machine after : Machine σ} {token : Token} {failure : Failure}

theorem next_ok (found : (machine.state.reading p).found = .ok token) :
    next p machine = .ok token (machine.withCursor (.behind (machine.state.reading p))) := by
  rw [State.reading] at found
  simp only [next, onCursor, Cursor.next, found]
  rfl

theorem next_error (found : (machine.state.reading p).found = .error failure) :
    next p machine = .error failure (machine.withCursor (.behind (machine.state.reading p))) := by
  rw [State.reading] at found
  simp only [next, onCursor, Cursor.next, found]
  rfl

theorem next_eq_ok (ran : next p machine = .ok token after) :
    (machine.state.reading p).found = .ok token ∧
      after = machine.withCursor (.behind (machine.state.reading p)) := by
  cases found : (machine.state.reading p).found with
  | ok other =>
    rw [next_ok found] at ran
    cases ran
    exact ⟨rfl, rfl⟩
  | error failure =>
    rw [next_error found] at ran
    cases ran

theorem evaluate_eq (p : Program) (machine : Machine σ) :
    evaluate p machine =
      match Expression.evaluate p machine.state.store machine.state.cursor with
      | .ok value cursor => .ok value (machine.withCursor cursor)
      | .error failure cursor => .error failure (machine.withCursor cursor) := by
  change onCursor (Expression.evaluate p machine.state.store) machine = _
  rw [onCursor]
  cases Expression.evaluate p machine.state.store machine.state.cursor <;> rfl

theorem evaluate_eq_ok {value : Float} (ran : evaluate p machine = .ok value after) :
    ∃ cursor, Expression.evaluate p machine.state.store machine.state.cursor = .ok value cursor ∧
      after = machine.withCursor cursor := by
  rw [evaluate_eq] at ran
  split at ran
  next cursor evaluated =>
    cases ran
    exact ⟨cursor, evaluated, rfl⟩
  · cases ran

end Exec

/-! ### Computations that read on -/

/-- All but the cursor is the same. -/
def State.Moved (before after : State) : Prop := ∃ cursor, after = { before with cursor }

theorem State.Moved.refl (state : State) : state.Moved state := ⟨state.cursor, rfl⟩

theorem State.Moved.trans {before between after : State} (moved : before.Moved between)
    (further : between.Moved after) : before.Moved after := by
  obtain ⟨_, rfl⟩ := moved
  obtain ⟨cursor, rfl⟩ := further
  exact ⟨cursor, rfl⟩

namespace Exec

variable {σ α β : Type} {p : Program} {first : Reading} {same : State → State → Prop}

/-- Behind the token `first`, the computation reads on. However it ends, the states before and
after it are the same in the given sense. -/
def Scans (p : Program) (first : Reading) (same : State → State → Prop) (exec : Exec σ α) : Prop :=
  ∀ ⦃before : Machine σ⦄, p.Ahead first before.state.cursor →
    Leaves (fun _ after => same before.state after.state ∧ p.Ahead first after.state.cursor)
      (fun _ after => same before.state after.state) (exec before)

theorem Scans.bind {exec : Exec σ α} {next : α → Exec σ β}
    (trans : ∀ {before between after}, same before between → same between after →
      same before after)
    (scans : Scans p first same exec) (goes : ∀ value, Scans p first same (next value)) :
    Scans p first same (exec >>= next) := by
  intro before ahead
  apply (scans ahead).bind
  rintro value between ⟨kept, further⟩
  refine (goes value further).imp ?_ ?_
  · exact fun _ after holds => ⟨trans kept holds.1, holds.2⟩
  · exact fun _ after holds => trans kept holds

theorem Scans.imp {weaker : State → State → Prop} {exec : Exec σ α}
    (scans : Scans p first same exec)
    (imp : ∀ {before after}, same before after → weaker before after) :
    Scans p first weaker exec := by
  intro before ahead
  refine (scans ahead).imp ?_ ?_
  · exact fun _ after holds => ⟨imp holds.1, holds.2⟩
  · exact fun _ after holds => imp holds

theorem scans_pure (refl : ∀ state, same state state) (value : α) :
    Scans p first same (pure value : Exec σ α) :=
  fun before ahead => .ok ⟨refl before.state, ahead⟩

theorem scans_throw (refl : ∀ state, same state state) (failure : Failure) :
    Scans p first same (throw failure : Exec σ α) :=
  fun before _ => .error (refl before.state)

theorem scans_getState (refl : ∀ state, same state state) :
    Scans p first same (getState : Exec σ State) :=
  fun before ahead => .ok ⟨refl before.state, ahead⟩

theorem scans_modifyState {change : State → State}
    (kept : ∀ state, same state (change state) ∧ (change state).cursor = state.cursor) :
    Scans p first same (modifyState change : Exec σ Unit) := by
  intro before ahead
  obtain ⟨holds, stays⟩ := kept before.state
  refine .ok ⟨holds, ?_⟩
  change p.Ahead first (change before.state).cursor
  rw [stays]
  exact ahead

section Tokens

variable (reading : p.IsReading first)

include reading

theorem scans_next : Scans p first State.Moved (next p : Exec σ Token) := by
  intro before ahead
  obtain ⟨tokens, passes⟩ := ahead.passes reading
  cases found : (before.state.reading p).found with
  | ok token =>
    rw [next_ok found]
    exact .ok ⟨⟨_, rfl⟩, .behind passes found⟩
  | error failure =>
    rw [next_error found]
    exact .error ⟨_, rfl⟩

theorem scans_evaluate : Scans p first State.Moved (evaluate p : Exec σ Float) := by
  intro before ahead
  obtain ⟨tokens, passes⟩ := ahead.passes reading
  have follows := Expression.evaluate_follows p before.state.store before.state.cursor
  rw [evaluate_eq]
  generalize Expression.evaluate p before.state.store before.state.cursor = result at follows
  cases follows with
  | ok holds =>
    -- what is in hand behind the expression comes after all that has been passed before it
    obtain ⟨last, token, ⟨others, behind, -⟩, found, rfl⟩ := holds
    exact .ok ⟨⟨_, rfl⟩, .before (passes.append behind) found⟩
  | error holds => exact .error ⟨_, rfl⟩

end Tokens

theorem scans_giveBack : Scans p first State.Moved (giveBack : Exec σ Unit) :=
  fun _ ahead => .ok ⟨⟨_, rfl⟩, ahead.giveBack⟩

theorem scans_onConsole (cause : String → Failure) (call : EStateM String σ α) :
    Scans p first State.Moved (onConsole cause call) := by
  intro before ahead
  rw [onConsole]
  cases call before.console with
  | ok value console => exact .ok ⟨.refl _, ahead⟩
  | error reason console => exact .error (.refl _)

end Exec

end LineBasic

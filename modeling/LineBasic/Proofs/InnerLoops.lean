import LineBasic.Proofs.Descent
import LineBasic.Proofs.LabelTable
import Mathlib.Logic.Function.Iterate

/-!
# Loops within a statement

PRINT goes through its items, FOR passes over a body that is not entered, and IF skips the
characters of its line. Each of them is a turn that is taken again and again, and here the
turns are written on their own, with what is done after them left open.

A turn goes on only where fewer characters are ahead, `GoesDown`. So as many turns as there
are characters, and one more, come to an end, whatever would be done after them: the budgets
of `Statement.printFrom` and `Statement.skipToNext` are never used up.
-/

namespace LineBasic

/-! ### Turns that go down -/

section Turns

variable {ι S R : Type} {measure : S → Nat} {turn : (ι → S → R) → ι → S → R}

/-- What a turn comes to depends on what is done after it only where the measure is smaller. -/
def GoesDown (measure : S → Nat) (turn : (ι → S → R) → ι → S → R) : Prop :=
  ∀ ⦃again other : ι → S → R⦄ (index : ι) ⦃state : S⦄,
    (∀ index less, measure less < measure state → again index less = other index less) →
    turn again index state = turn other index state

/-- Enough turns leave nothing to be done after them. -/
theorem GoesDown.iterate_eq (down : GoesDown measure turn) {turns more : Nat} {state : S}
    (again other : ι → S → R) (index : ι) (enough : measure state < turns)
    (alsoEnough : measure state < more) :
    turn^[turns] again index state = turn^[more] other index state := by
  induction turns generalizing more index state with
  | zero => omega
  | succ turns ih =>
    obtain ⟨more, rfl⟩ : ∃ fewer, more = fewer + 1 := ⟨more - 1, by omega⟩
    rw [Function.iterate_succ_apply', Function.iterate_succ_apply']
    exact down index fun index less below => ih index (by omega) (by omega)

end Turns

/-! ### The rest of a line -/

namespace Program

variable {p : Program}

/-- Passes one character, up to the first that ends a line. -/
def lineTurn (p : Program) (again : Unit → Nat → Nat) (_ : Unit) (offset : Nat) : Nat :=
  match p.charAt? offset with
  | none => offset
  | some _ => if p.endsLineAt offset then offset + 1 else again () (offset + 1)

theorem charAt?_eq_none_iff {offset : Nat} : p.charAt? offset = none ↔ p.length ≤ offset :=
  List.getElem?_eq_none_iff

theorem goesDown_lineTurn (p : Program) :
    GoesDown (fun offset => p.length - offset) p.lineTurn := by
  intro again other _ offset same
  rw [lineTurn, lineTurn]
  cases char : p.charAt? offset with
  | none => rfl
  | some c =>
    have inside : ¬p.length ≤ offset := by
      rw [← charAt?_eq_none_iff, char]
      simp
    have less := same () (offset + 1) (Nat.sub_lt_sub_left (by omega) (Nat.lt_succ_self _))
    dsimp only
    rw [less]

theorem lineTurn_nextLine (p : Program) :
    p.lineTurn (fun _ => p.nextLine) = fun _ => p.nextLine := by
  funext _ offset
  rw [lineTurn]
  cases char : p.charAt? offset with
  | none =>
    have none : p.rest offset = [] := List.drop_eq_nil_iff.mpr (charAt?_eq_none_iff.mp char)
    simp [nextLine, none, lineWidth]
  | some c =>
    have inside : ¬p.length ≤ offset := by
      rw [← charAt?_eq_none_iff, char]
      simp
    dsimp only
    split
    next ends => exact (nextLine_of_endsLineAt ends).symm
    next within => exact (nextLine_succ (by omega) (by simpa using within)).symm

/-- The rest of a line is skipped in so many turns. -/
theorem iterate_lineTurn (again : Unit → Nat → Nat) {turns offset : Nat}
    (enough : p.length < turns) : p.lineTurn^[turns] again () offset = p.nextLine offset := by
  calc p.lineTurn^[turns] again () offset
    _ = p.lineTurn^[turns] (fun _ => p.nextLine) () offset :=
      p.goesDown_lineTurn.iterate_eq again _ () (by omega) (by omega)
    _ = p.nextLine offset := by rw [Function.iterate_fixed p.lineTurn_nextLine]

end Program

namespace Statement

open Exec

variable {σ : Type} {p : Program} {machine after : Machine σ} {token : Token}

/-! ### The body of a FOR -/

/-- Passes one token, up to the first NEXT or the end of the program. -/
def skipTurn (p : Program) (again : Unit → Exec σ Unit) (_ : Unit) : Exec σ Unit := do
  match ← next p with
  | .keyword .NEXT => discard (optionalVariable p)
  | .endOfProgram => pure ()
  | _ => again ()

/-- The characters that are still ahead. -/
def ahead (p : Program) (machine : Machine σ) : Nat := p.length - machine.state.cursor.offset

theorem ahead_behind_lt (found : (machine.state.reading p).found = .ok token)
    (going : token ≠ .endOfProgram) :
    ahead p (machine.withCursor (.behind (machine.state.reading p))) < ahead p machine := by
  have taken := Program.start_lt_stop found going
  have gap := p.le_start machine.state.cursor.offset
  simp only [State.reading] at taken ⊢
  simp only [ahead, Machine.withCursor_cursor, Cursor.behind]
  omega

theorem goesDown_skipTurn (p : Program) :
    GoesDown (ahead p) (skipTurn p : (Unit → Exec σ Unit) → _) := by
  intro again other _ machine same
  refine bind_congr_of_ok rfl fun token after read => ?_
  obtain ⟨found, rfl⟩ := next_eq_ok read
  -- the tokens that end the loop are the same on both sides, all others take a character
  cases token with
  | endOfProgram => rfl
  | keyword word =>
    cases word with
    | NEXT => rfl
    | _ => exact same () _ (ahead_behind_lt found (by simp))
  | _ => exact same () _ (ahead_behind_lt found (by simp))

theorem skipToNext_eq_iterate (p : Program) (tokens : Nat) :
    (skipTurn p)^[tokens] (fun _ => pure ()) = fun _ => (skipToNext p tokens : Exec σ Unit) := by
  induction tokens with
  | zero => rfl
  | succ tokens ih =>
    rw [Function.iterate_succ_apply', ih]
    rfl

/-- The body is skipped in so many turns. -/
theorem iterate_skipTurn (again : Unit → Exec σ Unit) {turns : Nat} (machine : Machine σ)
    (enough : p.length < turns) :
    (skipTurn p)^[turns] again () machine = skipToNext p (p.length + 1) machine := by
  have few : ahead p machine ≤ p.length := Nat.sub_le _ _
  calc (skipTurn p)^[turns] again () machine
    _ = (skipTurn p)^[p.length + 1] (fun _ => pure ()) () machine :=
      (goesDown_skipTurn p).iterate_eq again _ () (by omega) (by omega)
    _ = skipToNext p (p.length + 1) machine := by rw [skipToNext_eq_iterate]

/-! ### The items of a PRINT -/

variable [Console σ] {config : Config}

/-- Writes an item and what separates it from the next, up to the end of the list. -/
def printTurn (p : Program) (config : Config) (again : Nat × Bool → Exec σ Unit)
    (place : Nat × Bool) : Exec σ Unit := do
  let (column, separated) := place
  let token ← next p
  if token.endsLine then
    unless separated do write "\n"
  else
    let text ← printItem p token
    write text
    let column := column + text.length
    match ← next p with
    | .delimiter .comma =>
      let blanks := config.padding column
      write (String.ofList (List.replicate blanks ' '))
      again (column + blanks, true)
    | .delimiter .semicolon =>
      write " "
      again (column + 1, true)
    | token => if token.endsLine then write "\n" else throw .malformed

theorem printFrom_eq_iterate (p : Program) (config : Config) (items : Nat) (place : Nat × Bool) :
    (printTurn p config)^[items] (fun _ => pure ()) place =
      (printFrom p config items place.1 place.2 : Exec σ Unit) := by
  induction items generalizing place with
  | zero => rfl
  | succ items ih =>
    rw [Function.iterate_succ_apply', funext ih]
    rfl

theorem state_of_write {text : String} (wrote : write text machine = .ok () after) :
    after.state = machine.state := by
  change onConsole .outputFailed (Console.write text) machine = _ at wrote
  rw [onConsole] at wrote
  split at wrote
  next => cases wrote; rfl
  next => cases wrote

theorem goesDown_printTurn (p : Program) (config : Config) :
    GoesDown (ahead p) (printTurn p config : (Nat × Bool → Exec σ Unit) → _) := by
  rintro again other ⟨column, separated⟩ machine same
  refine bind_congr_of_ok rfl fun token behind read => ?_
  obtain ⟨found, rfl⟩ := next_eq_ok read
  by_cases ends : token.endsLine = true
  · simp only [if_pos ends]
  simp only [if_neg ends]
  have reading : p.IsReading (machine.state.reading p) := ⟨_, rfl⟩
  refine bind_congr_of_ok rfl fun text printed item => ?_
  have start : p.Ahead (machine.state.reading p)
      (machine.withCursor (.behind (machine.state.reading p))).state.cursor :=
    .behind (.done _) found
  obtain ⟨-, onward⟩ := (scans_printItem reading token start).of_ok item
  refine bind_congr_of_ok rfl fun _ written wrote => ?_
  rw [← state_of_write wrote] at onward
  refine bind_congr_of_ok rfl fun separator behind read => ?_
  obtain ⟨foundSeparator, rfl⟩ := next_eq_ok read
  -- the separator is behind the item, and takes a character
  have between : ahead p written ≤ ahead p machine := by
    have forward := onward.start_le reading
    have gap := p.le_start machine.state.cursor.offset
    simp only [State.reading] at forward
    simp only [ahead]
    omega
  have less : ∀ place after text, separator ≠ .endOfProgram →
      write text (written.withCursor (.behind (written.state.reading p))) = .ok () after →
      again place after = other place after := by
    intro place after text going wrote
    apply same
    rw [ahead, state_of_write wrote]
    exact Nat.lt_of_lt_of_le (ahead_behind_lt foundSeparator going) between
  cases separator with
  | delimiter sign =>
    cases sign with
    | comma | semicolon =>
      exact bind_congr_of_ok rfl fun _ _ wrote => less _ _ _ (by simp) wrote
    | _ => rfl
  | _ => rfl

/-- The items are written in so many turns. -/
theorem iterate_printTurn (again : Nat × Bool → Exec σ Unit) {turns : Nat} (machine : Machine σ)
    (enough : p.length < turns) :
    (printTurn p config)^[turns] again (0, false) machine = print p config machine := by
  have few : ahead p machine ≤ p.length := Nat.sub_le _ _
  rw [print, ← printFrom_eq_iterate p config (p.length + 1) (0, false)]
  exact (goesDown_printTurn p config).iterate_eq again _ _ (by omega) (by omega)

end Statement

end LineBasic

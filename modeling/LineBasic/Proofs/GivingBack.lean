import LineBasic.Proofs.Outcomes
import LineBasic.Proofs.Survey
import Mathlib.Data.List.Induction

/-!
# Giving a token back

A cursor can read a token, give it back, skip a line and jump. Whatever it has done before,
the token that was read last can be given back and is found again, and if none was read last
there is nothing to give back. The end of a program is found again and again until the cursor
is moved away from it.

`Cursor.giveBack_sound` says so of every cursor that a list of moves leads to, also where some
of them have failed to read a token.
-/

namespace LineBasic

/-! ### What has been read -/

/-- The characters `raw`, with `behind` following them, are those of what was found: a token, a
string that is left open, or none at the end of the program. -/
inductive Spelt : Except Failure Token → (raw behind : List Char) → Prop
  | token {token : Token} {raw behind : List Char} (spells : Spells token raw behind) :
      Spelt (.ok token) raw behind
  | opens {body behind : List Char} (quotable : IsQuotable body)
      (ends : ∀ c ∈ behind.head?, c = '\r' ∨ c = '\n') :
      Spelt (.error .openQuote) ('"' :: body) behind
  | ends {behind : List Char} (ends : EndsProgram behind) :
      Spelt (.ok .endOfProgram) [] behind

/-- All that lies between the start and the stop of a reading is what was found. -/
theorem Program.read_spelt (p : Program) (offset : Nat) :
    ∃ raw behind, p.rest (p.read offset).start = raw ++ behind ∧
      (p.read offset).stop = (p.read offset).start + raw.length ∧
      Spelt (p.read offset).found raw behind := by
  have shape := p.read_cases offset
  generalize p.read offset = reading at shape ⊢
  cases shape with
  | @token token blanks raw behind text _ spells =>
    exact ⟨raw, behind, by rw [rest_add, text, List.drop_left], rfl, .token spells⟩
  | @ends blanks rest text _ ends =>
    exact ⟨[], rest, by rw [rest_add, text, List.drop_left]; rfl, rfl, .ends ends⟩
  | @opens blanks body behind text _ quotable ends =>
    exact ⟨'"' :: body, behind, by rw [rest_add, text, List.drop_left]; rfl, rfl,
      .opens quotable ends⟩

/-! ### Moves of a cursor -/

inductive Move where
  | next
  | giveBack
  | skipLine
  | jump (target : Nat)
deriving DecidableEq, Repr

/-- Where a move leads. One that fails to read a token leads behind what it has read. -/
def Move.apply (p : Program) : Move → Cursor → Cursor
  | .next, cursor => finalState (Cursor.next p cursor)
  | .giveBack, cursor => cursor.giveBack
  | .skipLine, cursor => cursor.skipLine p
  | .jump target, _ => .jump p target

namespace Cursor

variable {p : Program} {cursor : Cursor} {move : Move} {moves : List Move}

/-- Where moves lead, one after the other. -/
def afterMoves (p : Program) (moves : List Move) (cursor : Cursor) : Cursor :=
  moves.foldl (fun cursor move => move.apply p cursor) cursor

theorem afterMoves_snoc (p : Program) (moves : List Move) (move : Move) (cursor : Cursor) :
    afterMoves p (moves ++ [move]) cursor = move.apply p (afterMoves p moves cursor) := by
  simp [afterMoves]

@[simp] theorem finalState_next (p : Program) (cursor : Cursor) :
    finalState (next p cursor) = .behind (p.read cursor.offset) := by
  rw [next]
  cases (p.read cursor.offset).found <;> rfl

@[simp] theorem ending_next (p : Program) (cursor : Cursor) :
    ending (next p cursor) = (p.read cursor.offset).found := by
  rw [next]
  cases found : (p.read cursor.offset).found <;> simp [ending]

theorem le_length_apply (inside : cursor.offset ≤ p.length)
    (before : ∀ start ∈ cursor.lastStart, start ≤ p.length) :
    (move.apply p cursor).offset ≤ p.length ∧
      ∀ start ∈ (move.apply p cursor).lastStart, start ≤ p.length := by
  cases move with
  | next =>
    have stops := p.stop_le_length cursor.offset inside
    rw [Move.apply, finalState_next]
    refine ⟨stops, fun start last => ?_⟩
    cases last
    exact (p.start_le_stop _).trans stops
  | giveBack =>
    refine ⟨?_, by simp [Move.apply, giveBack]⟩
    rw [Move.apply, giveBack]
    cases last : cursor.lastStart with
    | none => exact inside
    | some start => exact before start last
  | skipLine => exact ⟨Program.nextLine_le inside, by simp [Move.apply, skipLine]⟩
  | jump target => exact ⟨Nat.min_le_right _ _, by simp [Move.apply, jump]⟩

/-- No move leads out of the text. -/
theorem afterMoves_le_length (p : Program) (moves : List Move) :
    (afterMoves p moves {}).offset ≤ p.length := by
  -- giving a token back leads to its start, so the starts are inside as well
  suffices both : (afterMoves p moves {}).offset ≤ p.length ∧
      ∀ start ∈ (afterMoves p moves {}).lastStart, start ≤ p.length from both.1
  induction moves using List.reverseRecOn with
  | nil => exact ⟨Nat.zero_le _, by simp [afterMoves]⟩
  | append_singleton moves move ih =>
    rw [afterMoves_snoc]
    exact le_length_apply ih.1 ih.2

/-- A token can be given back only right behind its reading. -/
theorem lastStart_afterMoves {start : Nat} (last : (afterMoves p moves {}).lastStart = some start) :
    ∃ earlier, moves = earlier ++ [.next] ∧
      start = (p.read (afterMoves p earlier {}).offset).start := by
  induction moves using List.reverseRecOn with
  | nil => cases last
  | append_singleton earlier move _ =>
    rw [afterMoves_snoc] at last
    cases move with
    | next =>
      rw [Move.apply, finalState_next] at last
      cases last
      exact ⟨earlier, rfl, rfl⟩
    | giveBack | skipLine | jump => cases last

theorem next_congr {other : Cursor} (same : p.read cursor.offset = p.read other.offset) :
    next p cursor = next p other := by
  simp only [next, same]

/-- Reading again from where a reading starts finds the same. -/
theorem next_giveBack (p : Program) (cursor : Cursor) :
    next p (finalState (next p cursor)).giveBack = next p cursor := by
  apply next_congr
  rw [finalState_next]
  exact p.read_start cursor.offset

theorem giveBack_of_none (none : cursor.lastStart = none) : cursor.giveBack = cursor := by
  obtain ⟨offset, lastStart⟩ := cursor
  subst none
  rfl

/-! ### The end of a program -/

/-- None of the moves is a jump, or skips a line and gets on by it. -/
inductive Undisturbed (p : Program) : Cursor → List Move → Prop
  | nil (cursor : Cursor) : Undisturbed p cursor []
  | next {cursor : Cursor} {moves : List Move}
      (rest : Undisturbed p (Move.next.apply p cursor) moves) :
      Undisturbed p cursor (.next :: moves)
  | giveBack {cursor : Cursor} {moves : List Move}
      (rest : Undisturbed p cursor.giveBack moves) : Undisturbed p cursor (.giveBack :: moves)
  | skipLine {cursor : Cursor} {moves : List Move}
      (stays : (cursor.skipLine p).offset = cursor.offset)
      (rest : Undisturbed p (cursor.skipLine p) moves) : Undisturbed p cursor (.skipLine :: moves)

/-- The cursor stands at the end of the program, with nothing to give back that starts before. -/
structure AtEnd (p : Program) (offset : Nat) (cursor : Cursor) : Prop where
  found : (p.read offset).found = .ok .endOfProgram
  start : (p.read offset).start = offset
  here : cursor.offset = offset
  last : ∀ start ∈ cursor.lastStart, start = offset

theorem atEnd_next (found : (p.read cursor.offset).found = .ok .endOfProgram) :
    AtEnd p (p.read cursor.offset).start (finalState (next p cursor)) where
  found := by rw [p.read_start, found]
  start := by rw [p.read_start]
  here := by
    rw [finalState_next, behind]
    exact Program.stop_of_endOfProgram found
  last := by simp [behind]

theorem AtEnd.afterMoves {offset : Nat} (atEnd : AtEnd p offset cursor)
    (undisturbed : Undisturbed p cursor moves) :
    AtEnd p offset (cursor.afterMoves p moves) := by
  induction undisturbed with
  | nil => exact atEnd
  | @next cursor moves _ ih =>
    apply ih
    have again : AtEnd p (p.read cursor.offset).start (finalState (Cursor.next p cursor)) :=
      atEnd_next (by rw [atEnd.here, atEnd.found])
    rw [atEnd.here, atEnd.start] at again
    exact again
  | @giveBack cursor moves _ ih =>
    apply ih
    refine { atEnd with here := ?_, last := by simp [Cursor.giveBack] }
    rw [Cursor.giveBack]
    cases last : cursor.lastStart with
    | none => exact atEnd.here
    | some start => exact atEnd.last start last
  | skipLine stays _ ih =>
    exact ih { atEnd with here := stays.trans atEnd.here, last := by simp [Cursor.skipLine] }

/-! ### Every cursor -/

/-- Wherever moves from the start of a program have led, the cursor is inside the text. What was
read last lies between its start and the cursor, and is found again once it has been given back.
If nothing was read last, nothing can be given back. And when the end of the program has been
found, it is found again, and the cursor stays, until the cursor is moved away. -/
theorem giveBack_sound (p : Program) (moves : List Move) :
    (afterMoves p moves {}).offset ≤ p.length ∧
    (∀ start, (afterMoves p moves {}).lastStart = some start →
      start ≤ (afterMoves p moves {}).offset ∧
      ∃ earlier raw behind, moves = earlier ++ [.next] ∧ p.rest start = raw ++ behind ∧
        (afterMoves p moves {}).offset = start + raw.length ∧
        Spelt (ending (next p (afterMoves p earlier {}))) raw behind) ∧
    next p (finalState (next p (afterMoves p moves {}))).giveBack =
      next p (afterMoves p moves {}) ∧
    (moves.getLast? ≠ some .next →
      (afterMoves p moves {}).giveBack = afterMoves p moves {}) ∧
    ∀ stopped further, stopped = finalState (next p (afterMoves p moves {})) →
      ending (next p (afterMoves p moves {})) = .ok .endOfProgram →
      Undisturbed p stopped further →
      (afterMoves p further stopped).offset = stopped.offset ∧
      ending (next p (afterMoves p further stopped)) = .ok .endOfProgram ∧
      (finalState (next p (afterMoves p further stopped))).offset = stopped.offset := by
  refine ⟨afterMoves_le_length p moves, ?last, next_giveBack p _, ?none, ?sticky⟩
  case last =>
    intro start last
    obtain ⟨earlier, rfl, rfl⟩ := lastStart_afterMoves last
    obtain ⟨raw, behind, text, stops, spelt⟩ := p.read_spelt (afterMoves p earlier {}).offset
    simp only [afterMoves_snoc, Move.apply, finalState_next, ending_next]
    exact ⟨p.start_le_stop _, earlier, raw, behind, rfl, text, stops, spelt⟩
  case none =>
    intro other
    apply giveBack_of_none
    rw [Option.eq_none_iff_forall_ne_some]
    intro start last
    obtain ⟨earlier, rfl, -⟩ := lastStart_afterMoves last
    exact other (by simp)
  case sticky =>
    rintro stopped further rfl found undisturbed
    rw [ending_next] at found
    have first := atEnd_next found
    have further := first.afterMoves undisturbed
    have again := atEnd_next (p := p) (by rw [further.here, further.found])
    rw [ending_next, further.here, further.found, first.here]
    refine ⟨rfl, rfl, ?_⟩
    rw [again.here, further.here, further.start]

/-- A string is left open on the first line, and a name stands on the second. -/
def leftOpen : Program := ⟨"A \"B\nC ".toList⟩

theorem giveBack_sound_leftOpen :
    (∃ earlier raw behind, [Move.next, .next] = earlier ++ [.next] ∧
      leftOpen.rest 2 = raw ++ behind ∧ 4 = 2 + raw.length ∧
      Spelt (ending (next leftOpen (afterMoves leftOpen earlier {}))) raw behind) ∧
    afterMoves leftOpen [.next, .next] {} = ⟨4, some 2⟩ ∧
    (afterMoves leftOpen [.next, .next, .giveBack] {}).giveBack =
      afterMoves leftOpen [.next, .next, .giveBack] {} ∧
    afterMoves leftOpen [.next, .next, .skipLine, .next] {} = ⟨6, some 5⟩ ∧
    ending (next leftOpen ⟨6, some 5⟩) = .ok .endOfProgram ∧
    ending (next leftOpen (afterMoves leftOpen [.giveBack, .next, .skipLine] ⟨7, some 7⟩)) =
      .ok .endOfProgram := by
  have opened : afterMoves leftOpen [.next, .next] {} = ⟨4, some 2⟩ := by decide +kernel
  have closing : afterMoves leftOpen [.next, .next, .skipLine, .next] {} = ⟨6, some 5⟩ := by
    decide +kernel
  have ends : ending (next leftOpen ⟨6, some 5⟩) = .ok .endOfProgram := by
    rw [ending_next]
    decide +kernel
  refine ⟨?spelt, opened, ?none, closing, ends, ?sticky⟩
  case spelt =>
    obtain ⟨-, last, -⟩ := giveBack_sound leftOpen [.next, .next]
    rw [opened] at last
    exact (last 2 rfl).2
  case none =>
    obtain ⟨-, -, -, none, -⟩ := giveBack_sound leftOpen [.next, .next, .giveBack]
    exact none (by decide)
  case sticky =>
    obtain ⟨-, -, -, -, sticky⟩ := giveBack_sound leftOpen [.next, .next, .skipLine, .next]
    rw [closing] at sticky
    -- the line cannot be left at its end, so skipping it does not get on
    refine (sticky ⟨7, some 7⟩ [.giveBack, .next, .skipLine] ?_ ends ?_).2.1
    · decide +kernel
    · exact .giveBack (.next (.skipLine (by decide +kernel) (.nil _)))

end Cursor

end LineBasic

import LineBasic.Proofs.Survey
import Mathlib.Order.Bounds.Basic

/-!
# Three notions of a line end

A line end is a character where lines are counted, it is what skipping a line stops behind,
and it is a token. A carriage return and a line feed behind it are one line end in each of
these ways, whatever ends the lines around them and wherever the cursor stands, also between
the two.

`Program.lineEnds_agree` says so for all three at once. The token is compared with the other
two along the tokens that are read before it, `Cursor.nexts`.
-/

namespace LineBasic

/-! ### Counted and skipped -/

theorem lineEnds_of_lt_lineWidth {text : List Char} {count : Nat}
    (short : count < lineWidth text) : lineEnds text count = 0 := by
  induction text generalizing count with
  | nil => rfl
  | cons c text ih =>
    rw [lineWidth] at short
    cases count with
    | zero => simp
    | succ count =>
      split at short
      next => omega
      next within => simp [lineEnds, within, ih (Nat.lt_of_succ_lt_succ short)]

/-- One line end is within the width of a line, unless the text has none. -/
theorem lineEnds_lineWidth (text : List Char) :
    lineEnds text (lineWidth text) = 1 ∨
      lineWidth text = text.length ∧ ∀ count, lineEnds text count = 0 := by
  induction text with
  | nil => exact .inr ⟨rfl, fun _ => rfl⟩
  | cons c text ih =>
    rw [lineWidth]
    split
    next ends => simp [lineEnds, ends]
    next within =>
      rcases ih with one | ⟨whole, none⟩
      · simp [lineEnds, within, one]
      · refine .inr ⟨by rw [whole, List.length_cons], fun count => ?_⟩
        cases count <;> simp [lineEnds, within, none]

namespace Program

variable {p : Program} {offset : Nat}

/-- The line of an offset is told by the characters before it that end a line. -/
theorem lineAt_eq_count (p : Program) (offset : Nat) :
    p.lineAt offset = 1 + (List.range (min offset p.length)).countP p.endsLineAt := by
  have counted : ∀ (text : List Char) (count : Nat), lineEnds text count =
      (List.range (min count text.length)).countP fun place =>
        startsWithLineEnd (text.drop place) := by
    intro text
    induction text with
    | nil => simp [lineEnds]
    | cons c text ih =>
      intro count
      cases count with
      | zero => simp
      | succ count =>
        -- the first character, and then those behind it
        rw [lineEnds, List.length_cons, Nat.succ_min_succ, List.range_succ_eq_map,
          List.countP_cons, List.countP_map, ih]
        simp only [List.drop_zero, Function.comp_def, List.drop_succ_cons, Nat.add_comm]
  rw [lineAt, counted]
  rfl

/-- The offsets behind another one that belong to the line behind its own. -/
def onNextLine (p : Program) (offset : Nat) : Set Nat :=
  {behind | offset < behind ∧ p.lineAt behind = p.lineAt offset + 1}

theorem lineAt_add (p : Program) (offset count : Nat) :
    p.lineAt (offset + count) = p.lineAt offset + lineEnds (p.rest offset) count := by
  rw [lineAt, lineAt, lineEnds_add, rest, Nat.add_assoc]

/-- Skipping a line leads to the first offset of the next one, or to the end of the text. -/
theorem nextLine_cases (inside : offset ≤ p.length) :
    IsLeast (p.onNextLine offset) (p.nextLine offset) ∨
      p.onNextLine offset = ∅ ∧ p.nextLine offset = p.length := by
  rcases lineEnds_lineWidth (p.rest offset) with one | ⟨whole, none⟩
  · have positive : lineWidth (p.rest offset) ≠ 0 := by
      intro zero
      simp [zero] at one
    left
    constructor
    · refine ⟨by rw [nextLine]; omega, ?_⟩
      rw [nextLine, lineAt_add, one]
    · rintro behind ⟨forward, next⟩
      obtain ⟨count, rfl⟩ := Nat.exists_eq_add_of_le (Nat.le_of_lt forward)
      rw [lineAt_add] at next
      -- within the width of the line, no line end has been counted yet
      by_contra before
      rw [lineEnds_of_lt_lineWidth (by rw [nextLine] at before; omega)] at next
      omega
  · right
    constructor
    · rw [Set.eq_empty_iff_forall_notMem]
      rintro behind ⟨forward, next⟩
      obtain ⟨count, rfl⟩ := Nat.exists_eq_add_of_le (Nat.le_of_lt forward)
      rw [lineAt_add, none] at next
      omega
    · rw [nextLine, whole, length_rest]
      omega

end Program

/-! ### Read as tokens -/

/-- Reads so many tokens, one after the other. -/
def Cursor.nexts (p : Program) : (count : Nat) → Scan (List Token)
  | 0 => pure []
  | count + 1 => do
    let token ← next p
    return token :: (← nexts p count)

namespace Cursor

variable {p : Program} {cursor after : Cursor} {count : Nat} {token : Token} {tokens : List Token}

theorem next_eq_ok (ran : next p cursor = .ok token after) :
    (p.read cursor.offset).found = .ok token ∧ after = .behind (p.read cursor.offset) := by
  rw [next] at ran
  split at ran
  next found =>
    cases ran
    exact ⟨found, rfl⟩
  next => cases ran

theorem nexts_succ_eq_ok (ran : nexts p (count + 1) cursor = .ok tokens after) :
    ∃ token others, tokens = token :: others ∧ (p.read cursor.offset).found = .ok token ∧
      nexts p count (.behind (p.read cursor.offset)) = .ok others after := by
  obtain ⟨token, between, first, ran⟩ := exists_of_bind_ok ran
  obtain ⟨others, last, rest, returned⟩ := exists_of_bind_ok ran
  obtain ⟨found, rfl⟩ := next_eq_ok first
  cases returned
  exact ⟨token, others, rfl, found, rest⟩

/-- Each token that ends a line leads to the next one, and no other token does. -/
theorem lineAt_nexts (ran : nexts p count cursor = .ok tokens after)
    (going : .endOfProgram ∉ tokens) :
    p.lineAt after.offset = p.lineAt cursor.offset + tokens.count .endOfLine := by
  induction count generalizing cursor tokens with
  | zero =>
    cases ran
    rfl
  | succ count ih =>
    obtain ⟨token, others, rfl, found, ran⟩ := nexts_succ_eq_ok ran
    simp only [List.mem_cons, not_or] at going
    have passed := Program.lineEnds_stop found (Ne.symm going.1)
    rw [ih ran going.2, Program.lineAt, Program.lineAt, behind, passed, List.count_cons]
    simp only [beq_iff_eq]
    omega

/-- The first token that ends a line stops where skipping the line does. -/
theorem nextLine_nexts (ran : nexts p count cursor = .ok (tokens ++ [.endOfLine]) after)
    (going : .endOfProgram ∉ tokens) (within : .endOfLine ∉ tokens) :
    after.offset = p.nextLine cursor.offset := by
  induction count generalizing cursor tokens with
  | zero => simp [nexts, pure, EStateM.pure] at ran
  | succ count ih =>
    obtain ⟨token, others, same, found, ran⟩ := nexts_succ_eq_ok ran
    cases tokens with
    | nil =>
      cases same
      cases count with
      | zero =>
        cases ran
        exact (Program.nextLine_of_endOfLine found).symm
      | succ count =>
        obtain ⟨_, _, impossible, -⟩ := nexts_succ_eq_ok ran
        cases impossible
    | cons first tokens =>
      cases same
      simp only [List.mem_cons, not_or] at going within
      rw [ih ran going.2 within.2]
      exact (Program.nextLine_of_token found (Ne.symm going.1) (Ne.symm within.1)).symm

end Cursor

namespace Program

/-- Lines are counted by the characters that end them. Reading from the start of a program
comes to the line that is told by the tokens that end one; skipping a line leads to the
first offset of the next; and where tokens lead to the end of a line, skipping leads to the
same offset. -/
theorem lineEnds_agree (p : Program) :
    (∀ offset, p.lineAt offset =
      1 + (List.range (min offset p.length)).countP p.endsLineAt) ∧
    (∀ lastStart count tokens after,
      Cursor.nexts p count ⟨0, lastStart⟩ = .ok tokens after → .endOfProgram ∉ tokens →
      p.lineAt after.offset = 1 + tokens.count .endOfLine) ∧
    (∀ cursor : Cursor, cursor.offset ≤ p.length →
      IsLeast (p.onNextLine cursor.offset) (cursor.skipLine p).offset ∨
        p.onNextLine cursor.offset = ∅ ∧ (cursor.skipLine p).offset = p.length) ∧
    ∀ cursor count tokens after,
      Cursor.nexts p count cursor = .ok (tokens ++ [.endOfLine]) after →
      .endOfProgram ∉ tokens → .endOfLine ∉ tokens →
      after.offset = (cursor.skipLine p).offset := by
  refine ⟨p.lineAt_eq_count, ?read, fun cursor inside => nextLine_cases inside, ?skip⟩
  case read =>
    intro lastStart count tokens after ran going
    rw [Cursor.lineAt_nexts ran going, lineAt, lineEnds_zero]
  case skip => exact fun cursor count tokens after => Cursor.nextLine_nexts

/-- A carriage return alone, one with a line feed, and a last line without an end. -/
def threeLines : Program := .ofString "A\rB\r\n1 \"C"

/-- The cursor between the two characters of a line end is still on the line they end. On the
last line there is no next one. -/
theorem lineEnds_agree_threeLines :
    Cursor.nexts threeLines 4 {} = .ok [.name "A", .endOfLine, .name "B", .endOfLine]
      ⟨5, some 3⟩ ∧
    threeLines.lineAt 5 = 3 ∧
    IsLeast (threeLines.onNextLine 4) (Cursor.skipLine threeLines ⟨4, none⟩).offset ∧
    threeLines.onNextLine 6 = ∅ ∧ (Cursor.skipLine threeLines ⟨6, none⟩).offset = 9 ∧
    Cursor.nexts threeLines 2 ⟨2, none⟩ = .ok [.name "B", .endOfLine] ⟨5, some 3⟩ ∧
    5 = (Cursor.skipLine threeLines ⟨2, none⟩).offset := by
  obtain ⟨-, read, skip, same⟩ := lineEnds_agree threeLines
  obtain ⟨tokens, after, ran, checked⟩ := exists_of_succeedsWith (show
    succeedsWith (fun tokens after => tokens = [.name "A", .endOfLine, .name "B", .endOfLine] ∧
      after = ⟨5, some 3⟩) (Cursor.nexts threeLines 4 {}) = true by decide +kernel)
  obtain ⟨rfl, rfl⟩ := of_decide_eq_true checked
  obtain ⟨tokens, after, ranSecond, checked⟩ := exists_of_succeedsWith (show
    succeedsWith (fun tokens after => tokens = [.name "B"] ++ [.endOfLine] ∧ after = ⟨5, some 3⟩)
      (Cursor.nexts threeLines 2 ⟨2, none⟩) = true by decide +kernel)
  obtain ⟨rfl, rfl⟩ := of_decide_eq_true checked
  have between := (skip ⟨4, none⟩ (by decide +kernel)).resolve_right fun none =>
    absurd none.2 (by decide +kernel)
  obtain ⟨last, ends⟩ := (skip ⟨6, none⟩ (by decide +kernel)).resolve_left fun least =>
    absurd least.1.2 (by decide +kernel)
  refine ⟨ran, read none 4 _ _ ran (by decide), between, last, ?_, ranSecond,
    same _ 2 _ _ ranSecond (by decide) (by decide)⟩
  rw [ends]
  rfl

end Program

end LineBasic

import LineBasic.Proofs.Readings

/-!
# Lines and tokens

Lines are counted and skipped by characters, and ended by tokens. The two agree:
blanks and all other tokens hold no character that ends a line, and the token that
ends a line holds exactly one such character, its last.
-/

namespace LineBasic

/-! ### Characters that end lines -/

/-- A text on one line. -/
def IsPlain (text : List Char) : Prop := ∀ c ∈ text, c ≠ '\r' ∧ c ≠ '\n'

theorem startsWithLineEnd_plain {c : Char} (plain : c ≠ '\r' ∧ c ≠ '\n') (rest : List Char) :
    startsWithLineEnd (c :: rest) = false := by
  unfold startsWithLineEnd
  split <;> simp_all

theorem lineWidth_plain {text : List Char} (plain : IsPlain text) (rest : List Char) :
    lineWidth (text ++ rest) = text.length + lineWidth rest := by
  induction text with
  | nil => simp
  | cons c text ih =>
    have first := startsWithLineEnd_plain (plain c (by simp)) (text ++ rest)
    have others := ih fun d member => plain d (by simp [member])
    rw [List.cons_append, lineWidth, first, others, List.length_cons]
    simp only [Bool.false_eq_true, if_false]
    omega

@[simp] theorem lineEnds_zero (text : List Char) : lineEnds text 0 = 0 := by
  cases text <;> rfl

theorem lineEnds_plain {text : List Char} (plain : IsPlain text) (rest : List Char)
    (count : Nat) : lineEnds (text ++ rest) (text.length + count) = lineEnds rest count := by
  induction text with
  | nil => simp
  | cons c text ih =>
    have first := startsWithLineEnd_plain (plain c (by simp)) (text ++ rest)
    have others := ih fun d member => plain d (by simp [member])
    rw [List.cons_append, List.length_cons, Nat.add_right_comm, lineEnds, first, others]
    simp

theorem lineEnds_add (text : List Char) (first second : Nat) :
    lineEnds text (first + second) = lineEnds text first + lineEnds (text.drop first) second := by
  induction text generalizing first with
  | nil => simp [lineEnds]
  | cons c text ih =>
    cases first with
    | zero => simp [lineEnds]
    | succ first =>
      rw [Nat.add_right_comm, lineEnds, lineEnds, ih, List.drop_succ_cons]
      omega

/-! ### Blanks and tokens -/

theorem isPlain_of_blank {blanks : List Char} (blank : ∀ c ∈ blanks, isBlank c = true) :
    IsPlain blanks := by
  intro c member
  have found := blank c member
  constructor
  · rintro rfl
    cases found
  · rintro rfl
    cases found

theorem isPlain_of_isRun {raw : List Char} (run : IsRun raw) : IsPlain raw := by
  intro c member
  have inside := run c member
  constructor
  · rintro rfl
    cases inside
  · rintro rfl
    cases inside

namespace Spells

variable {token : Token} {raw behind : List Char}

theorem isPlain (spells : Spells token raw behind) (within : token ≠ .endOfLine) : IsPlain raw := by
  cases spells with
  | @sign sign =>
    have checked : sign.spelling.toList.all (fun c => c != '\r' && c != '\n') = true := by
      cases sign <;> decide
    simpa only [IsPlain, List.all_eq_true, Bool.and_eq_true, bne_iff_ne] using checked
  | lineFeed => exact absurd rfl within
  | linePair => exact absurd rfl within
  | carriageReturn => exact absurd rfl within
  | quoted quotable =>
    intro c member
    rcases List.mem_cons.mp member with rfl | inside
    · decide
    · rcases List.mem_append.mp inside with text | closing
      · exact (quotable c text).2
      · rw [List.mem_singleton.mp closing]
        decide
  | keyword shape => exact isPlain_of_isRun shape.2
  | name shape => exact isPlain_of_isRun shape.2
  | number shape => exact isPlain_of_isRun shape.2

private theorem startsWithLineEnd_return {rest : List Char} (alone : rest.head? ≠ some '\n') :
    startsWithLineEnd ('\r' :: rest) = true := by
  unfold startsWithLineEnd
  split <;> simp_all

theorem lineWidth_endOfLine (spells : Spells .endOfLine raw behind) :
    lineWidth (raw ++ behind) = raw.length := by
  cases spells with
  | lineFeed => rfl
  | linePair => rfl
  | carriageReturn alone =>
    rw [List.singleton_append, lineWidth, startsWithLineEnd_return alone]
    rfl

theorem lineEnds_endOfLine (spells : Spells .endOfLine raw behind) :
    lineEnds (raw ++ behind) raw.length = 1 := by
  cases spells with
  | lineFeed => simp [lineEnds, startsWithLineEnd]
  | linePair => simp [lineEnds, startsWithLineEnd]
  | carriageReturn alone =>
    simp [lineEnds, startsWithLineEnd_return alone]

end Spells

/-! ### Lines of a program -/

namespace Program

variable {p : Program} {offset : Nat}

theorem lineEnds_start (p : Program) (offset : Nat) :
    lineEnds p.text (p.read offset).start = lineEnds p.text offset := by
  obtain ⟨blanks, rest, text, blank, gap⟩ := p.exists_gap offset
  have plain := lineEnds_plain (isPlain_of_blank blank) rest 0
  rw [gap, lineEnds_add, ← Program.rest, text, ← Nat.add_zero blanks.length, plain,
    lineEnds_zero]
  rfl

theorem lineEnds_stop {token : Token} (found : (p.read offset).found = .ok token)
    (going : token ≠ .endOfProgram) :
    lineEnds p.text (p.read offset).stop =
      lineEnds p.text offset + if token = .endOfLine then 1 else 0 := by
  have shape := p.read_cases offset
  generalize p.read offset = reading at shape found ⊢
  cases shape with
  | ends => exact absurd (Except.ok.inj found).symm going
  | opens => cases found
  | @token token' blanks raw behind text blank spells =>
    cases Except.ok.inj found
    rw [Nat.add_assoc, lineEnds_add, ← Program.rest, text, lineEnds_plain (isPlain_of_blank blank)]
    congr 1
    -- the characters of the token count only if it ends the line
    by_cases ends : token = .endOfLine
    · subst ends
      rw [spells.lineEnds_endOfLine, if_pos rfl]
    · rw [if_neg ends, ← Nat.add_zero raw.length, lineEnds_plain (spells.isPlain ends),
        lineEnds_zero]

theorem nextLine_start (p : Program) (offset : Nat) :
    offset + lineWidth (p.rest offset) =
      (p.read offset).start + lineWidth (p.rest (p.read offset).start) := by
  obtain ⟨blanks, rest, text, blank, gap⟩ := p.exists_gap offset
  rw [gap, rest_add, text, List.drop_left, lineWidth_plain (isPlain_of_blank blank)]
  omega

theorem nextLine_of_endOfLine (found : (p.read offset).found = .ok .endOfLine) :
    offset + lineWidth (p.rest offset) = (p.read offset).stop := by
  have shape := p.read_cases offset
  generalize p.read offset = reading at shape found ⊢
  cases shape with
  | ends => cases found
  | opens => cases found
  | @token token' blanks raw behind text blank spells =>
    cases Except.ok.inj found
    rw [text, lineWidth_plain (isPlain_of_blank blank), spells.lineWidth_endOfLine]
    exact (Nat.add_assoc _ _ _).symm

theorem nextLine_of_token {token : Token} (found : (p.read offset).found = .ok token)
    (going : token ≠ .endOfProgram) (within : token ≠ .endOfLine) :
    offset + lineWidth (p.rest offset) =
      (p.read offset).stop + lineWidth (p.rest (p.read offset).stop) := by
  have shape := p.read_cases offset
  generalize p.read offset = reading at shape found ⊢
  cases shape with
  | ends => exact absurd (Except.ok.inj found).symm going
  | opens => cases found
  | @token token' blanks raw behind text blank spells =>
    cases Except.ok.inj found
    have further : p.rest (offset + blanks.length + raw.length) = behind := by
      rw [rest_add, rest_add, text, List.drop_left, List.drop_left]
    rw [text, lineWidth_plain (isPlain_of_blank blank), lineWidth_plain (spells.isPlain within)]
    simp only [further]
    omega

theorem nextLine_of_end (ends : (p.read offset).start = p.length) :
    offset + lineWidth (p.rest offset) = p.length := by
  obtain ⟨blanks, rest, text, blank, gap⟩ := p.exists_gap offset
  -- the blanks already reach the end of the text
  have size := p.length_rest offset
  rw [text, List.length_append] at size
  have done : rest = [] := List.length_eq_zero_iff.mp (by omega)
  subst done
  rw [text, lineWidth_plain (isPlain_of_blank blank), lineWidth]
  omega

end Program

end LineBasic

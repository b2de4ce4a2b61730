import LineBasic.Cursor
import LineBasic.Proofs.Lexing

/-!
# Readings one after the other

A reading at an offset passes over blanks and then finds a token, the end of the
program or an open quotation mark; `Program.read_cases` says so in terms of the
text. From it follows where readings can start and stop: reading moves forward,
stays within the text, and finds the same again from where the token starts.

`Program.Passes` describes the readings of several tokens in a row.
-/

namespace LineBasic.Program

variable {p : Program} {offset : Nat}

/-! ### What a reading can be -/

/-- The readings that the text at an offset allows. -/
inductive ReadsAs (p : Program) (offset : Nat) : Reading → Prop
  | token {token : Token} {blanks raw behind : List Char}
      (text : p.rest offset = blanks ++ (raw ++ behind))
      (blank : ∀ c ∈ blanks, isBlank c = true) (spells : Spells token raw behind) :
      ReadsAs p offset
        ⟨.ok token, offset + blanks.length, offset + blanks.length + raw.length⟩
  | ends {blanks rest : List Char} (text : p.rest offset = blanks ++ rest)
      (blank : ∀ c ∈ blanks, isBlank c = true) (ends : EndsProgram rest) :
      ReadsAs p offset ⟨.ok .endOfProgram, offset + blanks.length, offset + blanks.length⟩
  | opens {blanks body behind : List Char}
      (text : p.rest offset = blanks ++ ('"' :: (body ++ behind)))
      (blank : ∀ c ∈ blanks, isBlank c = true) (quotable : IsQuotable body)
      (ends : ∀ c ∈ behind.head?, c = '\r' ∨ c = '\n') :
      ReadsAs p offset
        ⟨.error .openQuote, offset + blanks.length, offset + blanks.length + (body.length + 1)⟩

private theorem read_gap {blanks rest : List Char} (text : p.rest offset = blanks ++ rest)
    (blank : ∀ c ∈ blanks, isBlank c = true) (started : ∀ c ∈ rest.head?, isBlank c = false) :
    p.read offset =
      ⟨(lex rest).found, offset + blanks.length, offset + blanks.length + (lex rest).width⟩ := by
  simp only [read, text, takeWhile_longest blank started, List.drop_left]

theorem read_cases (p : Program) (offset : Nat) : p.ReadsAs offset (p.read offset) := by
  obtain ⟨blanks, rest, text, blank, started⟩ := exists_longest isBlank (p.rest offset)
  rw [read_gap text blank started]
  rcases spelled_or_stops rest started with ⟨token, raw, behind, rfl, spells⟩ | ends | opens
  · rw [lex_of_spells spells]
    exact .token text blank spells
  · rw [lex_of_endsProgram ends]
    exact .ends text blank ends
  · obtain ⟨body, behind, rfl, quotable, ends⟩ := opens
    rw [lex, lexQuoted_open quotable ends]
    exact .opens text blank quotable ends

theorem read_of_spells {token : Token} {blanks raw behind : List Char}
    (text : p.rest offset = blanks ++ (raw ++ behind))
    (blank : ∀ c ∈ blanks, isBlank c = true) (spells : Spells token raw behind) :
    p.read offset =
      ⟨.ok token, offset + blanks.length, offset + blanks.length + raw.length⟩ := by
  rw [read_gap text blank spells.head_not_blank, lex_of_spells spells]

theorem read_of_endsProgram {blanks rest : List Char} (text : p.rest offset = blanks ++ rest)
    (blank : ∀ c ∈ blanks, isBlank c = true) (ends : EndsProgram rest) :
    p.read offset =
      ⟨.ok .endOfProgram, offset + blanks.length, offset + blanks.length⟩ := by
  rw [read_gap text blank ends.head_not_blank, lex_of_endsProgram ends]
  rfl

theorem read_wellFormed {token : Token} (found : (p.read offset).found = .ok token)
    (going : token ≠ .endOfProgram) : token.WellFormed := by
  have shape := p.read_cases offset
  generalize p.read offset = reading at shape found
  cases shape with
  | token _ _ spells => exact Except.ok.inj found ▸ spells.wellFormed
  | ends => exact absurd (Except.ok.inj found).symm going
  | opens => cases found

/-! ### Where readings start and stop -/

theorem rest_add (p : Program) (offset count : Nat) :
    p.rest (offset + count) = (p.rest offset).drop count := by
  rw [rest, rest, List.drop_drop]

theorem length_rest (p : Program) (offset : Nat) : (p.rest offset).length = p.length - offset := by
  rw [rest, List.length_drop, length]

theorem exists_gap (p : Program) (offset : Nat) :
    ∃ blanks rest, p.rest offset = blanks ++ rest ∧ (∀ c ∈ blanks, isBlank c = true) ∧
      (p.read offset).start = offset + blanks.length := by
  obtain ⟨blanks, rest, text, blank, started⟩ := exists_longest isBlank (p.rest offset)
  refine ⟨blanks, rest, text, blank, ?_⟩
  rw [read_gap text blank started]

theorem le_start (p : Program) (offset : Nat) : offset ≤ (p.read offset).start := by
  simp [read]

theorem start_le_stop (p : Program) (offset : Nat) :
    (p.read offset).start ≤ (p.read offset).stop := by
  simp [read]

theorem stop_le_length (p : Program) (offset : Nat) (inside : offset ≤ p.length) :
    (p.read offset).stop ≤ p.length := by
  have size := p.length_rest offset
  have shape := p.read_cases offset
  generalize p.read offset = reading at shape ⊢
  cases shape with
  | token text => rw [text] at size; simp only [List.length_append] at size ⊢; omega
  | ends text => rw [text] at size; simp only [List.length_append] at size ⊢; omega
  | opens text =>
    rw [text] at size
    simp only [List.length_append, List.length_cons] at size ⊢
    omega

/-- A token takes at least one character of the text. -/
theorem start_lt_stop {token : Token} (found : (p.read offset).found = .ok token)
    (going : token ≠ .endOfProgram) :
    (p.read offset).start < (p.read offset).stop ∧ (p.read offset).stop ≤ p.length := by
  have size := p.length_rest offset
  have shape := p.read_cases offset
  generalize p.read offset = reading at shape found ⊢
  cases shape with
  | token text _ spells =>
    have positive := spells.length_pos
    rw [text] at size
    simp only [List.length_append] at size ⊢
    omega
  | ends => exact absurd (Except.ok.inj found).symm going
  | opens => cases found

theorem stop_of_endOfProgram (found : (p.read offset).found = .ok .endOfProgram) :
    (p.read offset).stop = (p.read offset).start := by
  have shape := p.read_cases offset
  generalize p.read offset = reading at shape found ⊢
  cases shape with
  | token _ _ spells => exact absurd (Except.ok.inj found) spells.ne_endOfProgram
  | ends => rfl
  | opens => cases found

theorem read_start (p : Program) (offset : Nat) :
    p.read (p.read offset).start = p.read offset := by
  obtain ⟨blanks, rest, text, blank, started⟩ := exists_longest isBlank (p.rest offset)
  -- behind the blanks there are no more of them to pass
  have behind : p.rest (offset + blanks.length) = [] ++ rest := by
    rw [rest_add, text, List.drop_left, List.nil_append]
  rw [read_gap text blank started, read_gap behind (by simp) started]
  simp

/-! ### Several tokens in a row -/

/-- A reading that the program gives at some offset. -/
def IsReading (p : Program) (reading : Reading) : Prop := ∃ offset, reading = p.read offset

/-- With the reading `first` in hand, `tokens` are passed one after the other,
and the reading `last` is in hand then. -/
inductive Passes (p : Program) : Reading → List Token → Reading → Prop
  | done (reading : Reading) : Passes p reading [] reading
  | pass {first last : Reading} {token : Token} {tokens : List Token}
      (found : first.found = .ok token) (going : token ≠ .endOfProgram)
      (rest : Passes p (p.read first.stop) tokens last) : Passes p first (token :: tokens) last

namespace Passes

variable {first middle last : Reading} {token : Token} {tokens others : List Token}

theorem single (found : first.found = .ok token) (going : token ≠ .endOfProgram) :
    p.Passes first [token] (p.read first.stop) :=
  .pass found going (.done _)

theorem append (passes : p.Passes first tokens middle) (further : p.Passes middle others last) :
    p.Passes first (tokens ++ others) last := by
  induction passes with
  | done => exact further
  | pass found going _ ih => exact .pass found going (ih further)

theorem split (passes : p.Passes first (tokens ++ others) last) :
    ∃ middle, p.Passes first tokens middle ∧ p.Passes middle others last := by
  induction tokens generalizing first with
  | nil => exact ⟨first, .done first, passes⟩
  | cons token tokens ih =>
    cases passes with
    | pass found going rest =>
      obtain ⟨middle, before, behind⟩ := ih rest
      exact ⟨middle, .pass found going before, behind⟩

theorem exists_found (passes : p.Passes first tokens last) (following : last.found = .ok token) :
    ∃ token, first.found = .ok token := by
  cases passes with
  | done => exact ⟨token, following⟩
  | pass found => exact ⟨_, found⟩

theorem isReading (passes : p.Passes first tokens last) (reading : p.IsReading first) :
    p.IsReading last := by
  induction passes with
  | done => exact reading
  | pass _ _ _ ih => exact ih ⟨_, rfl⟩

theorem start_le (passes : p.Passes first tokens last) (reading : p.IsReading first) :
    first.start ≤ last.start := by
  induction passes with
  | done => exact Nat.le_refl _
  | @pass first _ _ _ _ _ _ ih =>
    obtain ⟨offset, rfl⟩ := reading
    have forward := ih ⟨_, rfl⟩
    have taken := p.start_le_stop offset
    have gap := p.le_start (p.read offset).stop
    omega

theorem start_lt (passes : p.Passes first tokens last) (some : tokens ≠ [])
    (reading : p.IsReading first) : first.start < last.start := by
  cases passes with
  | done => exact absurd rfl some
  | pass found going rest =>
    obtain ⟨offset, rfl⟩ := reading
    have taken := start_lt_stop found going
    have gap := p.le_start (p.read offset).stop
    have forward := rest.start_le ⟨_, rfl⟩
    omega

/-- There are fewer characters ahead once a token has been passed. -/
theorem ahead_lt (passes : p.Passes first tokens last) (some : tokens ≠ [])
    (reading : p.IsReading first) : p.length - last.start < p.length - first.start := by
  have forward := passes.start_lt some reading
  cases passes with
  | done => exact absurd rfl some
  | pass found going rest =>
    obtain ⟨offset, rfl⟩ := reading
    have taken := start_lt_stop found going
    omega

theorem start_le_length (passes : p.Passes (p.read offset) tokens last)
    (inside : offset ≤ p.length) : last.start ≤ p.length := by
  induction tokens generalizing offset with
  | nil =>
    cases passes
    exact Nat.le_trans (p.start_le_stop offset) (p.stop_le_length offset inside)
  | cons token tokens ih =>
    cases passes with
    | pass found going rest => exact ih rest (start_lt_stop found going).2

/-- Each token takes a character, so there are no more of them than characters. -/
theorem length_le (passes : p.Passes (p.read offset) tokens last) :
    tokens.length ≤ p.length - offset := by
  induction tokens generalizing offset with
  | nil => simp
  | cons token tokens ih =>
    cases passes with
    | pass found going rest =>
      -- the other tokens lie behind this one, which takes a character itself
      have bound := ih rest
      have taken := start_lt_stop found going
      have forward := p.le_start offset
      rw [List.length_cons]
      omega

end Passes

end LineBasic.Program

import LineBasic.Proofs.Cutting

/-!
# Rendering and tokenizing

Rendering writes one blank between the tokens of a line. The result is cut where
the tokens meet, whatever tokens these are: a blank and a line feed end every run
and complete no longer sign. So rendered tokens are read back exactly when each
of them is one that can be read at all.
-/

namespace LineBasic

theorem Spells.getLast?_ne_endMark {token : Token} {raw behind : List Char}
    (spells : Spells token raw behind) : raw.getLast? ≠ some endMark := by
  -- the mark ends a run, so no run holds it
  have run {raw : List Char} (run : IsRun raw) : raw.getLast? ≠ some endMark := by
    intro last
    have ends := run endMark (List.mem_of_getLast? last)
    simp [endsRun] at ends
  cases spells with
  | @sign sign => cases sign <;> decide
  | lineFeed => decide
  | linePair => decide
  | carriageReturn => decide
  | quoted => simp [List.getLast?_cons, endMark]
  | keyword shape => exact run shape.2
  | name shape => exact run shape.2
  | number shape => exact run shape.2

namespace Listing

/-! ### What stands behind a rendered token -/

/-- A text in front of which every token ends. -/
def Separated (behind : List Char) : Prop := ∀ c ∈ behind.head?, c = ' ' ∨ c = '\n'

theorem Separated.runEnds {behind : List Char} (separated : Separated behind) :
    RunEnds behind := by
  intro c head
  rcases separated c head with rfl | rfl <;> rfl

theorem Separated.signEnds {behind : List Char} (separated : Separated behind)
    (sign : Delimiter) : SignEnds sign behind := by
  have other {c : Char} (different : c ≠ ' ' ∧ c ≠ '\n') : behind.head? ≠ some c := by
    intro head
    rcases separated c head with rfl | rfl <;> simp at different
  cases sign with
  | less => exact ⟨other (by decide), other (by decide)⟩
  | greater => exact other (by decide)
  | _ => trivial

theorem keyword_isWord (word : Keyword) : IsWord word.spelling.toList := by
  constructor
  · cases word <;> exact ⟨_, rfl, Text.isAlphabetic_ascii _ (by decide)⟩
  · have checked : word.spelling.toList.all (fun c => !endsRun c) = true := by
      cases word <;> decide
    simpa only [IsRun, List.all_eq_true, Bool.not_eq_true'] using checked

theorem keyword_upper (word : Keyword) :
    word.spelling.toList.map Char.toUpper = word.spelling.toList := by
  cases word <;> decide

theorem spells_spell {token : Token} {behind : List Char} (wellFormed : token.WellFormed)
    (separated : Separated behind) : Spells token (spell token).toList behind := by
  cases token with
  | delimiter sign => exact .sign (separated.signEnds sign)
  | name text => exact .name wellFormed.1 separated.runEnds wellFormed.2
  | number text => exact .number wellFormed separated.runEnds
  | keyword word => exact .keyword (keyword_isWord word) separated.runEnds (keyword_upper word)
  | quoted text =>
    have shape : (spell (.quoted text)).toList = '"' :: (text.toList ++ ['"']) := by
      simp [spell, String.toList_append]
    exact shape ▸ .quoted wellFormed
  | endOfLine => exact .lineFeed
  | endOfProgram => exact wellFormed.elim

/-! ### Rendered tokens are cut where they meet -/

theorem renderFrom_separated (tokens : List Token) :
    Separated (renderFrom false tokens).toList := by
  intro c head
  cases tokens with
  | nil => simp [renderFrom] at head
  | cons token rest =>
    cases token with
    | endOfProgram => simp [renderFrom] at head
    | endOfLine => exact Or.inr (by simpa [renderFrom, String.toList_append, eq_comm] using head)
    | _ => exact Or.inl (by simpa [renderFrom, String.toList_append, eq_comm] using head)

theorem exists_pieces (tokens : List Token) (atLineStart : Bool)
    (wellFormed : ∀ token ∈ tokens, token.WellFormed) :
    ∃ pieces, (renderFrom atLineStart tokens).toList = joined pieces [] ∧ Fits pieces [] ∧
      pieces.map Piece.token = tokens := by
  induction tokens generalizing atLineStart with
  | nil => exact ⟨[], by simp [renderFrom, joined], trivial, rfl⟩
  | cons token tokens ih =>
    have first := wellFormed token (by simp)
    have others : ∀ token ∈ tokens, token.WellFormed := fun token member =>
      wellFormed token (by simp [member])
    -- a line end needs no blank before it, and none follows it
    by_cases newLine : token = .endOfLine
    · subst token
      obtain ⟨pieces, text, fits, same⟩ := ih true others
      refine ⟨⟨[], ['\n'], .endOfLine⟩ :: pieces, ?_, ⟨by simp, .lineFeed, fits⟩, by simp [same]⟩
      simp [renderFrom, joined, String.toList_append, text]
    · obtain ⟨pieces, text, fits, same⟩ := ih false others
      -- a blank or a line end follows, so the token ends where it was written to end
      have spells := spells_spell first (renderFrom_separated tokens)
      rw [text] at spells
      refine ⟨⟨if atLineStart then [] else [' '], (spell token).toList, token⟩ :: pieces,
        ?_, ⟨?_, spells, fits⟩, by simp [same]⟩
      · have stays : token ≠ .endOfProgram := spells.ne_endOfProgram
        cases atLineStart <;> simp [renderFrom, joined, String.toList_append, text]
      · cases atLineStart <;> simp [isBlank]

theorem joined_getLast?_ne_endMark {pieces : List Piece} (fits : Fits pieces []) :
    (joined pieces []).getLast? ≠ some endMark := by
  induction pieces with
  | nil => simp [joined]
  | cons piece pieces ih =>
    obtain ⟨_, spells, fits⟩ := fits
    obtain ⟨c, rest, raw, _⟩ := spells.exists_head
    have here := spells.getLast?_ne_endMark
    have later := ih fits
    -- the last character belongs to what follows, or to this piece if nothing does
    rw [joined, List.getLast?_append, List.getLast?_append]
    cases last : (joined pieces []).getLast? with
    | some c => simpa [last] using later
    | none =>
      rw [raw] at here ⊢
      simpa [List.getLast?_cons] using here

theorem exists_cutting_render {tokens : List Token}
    (wellFormed : ∀ token ∈ tokens, token.WellFormed) :
    ∃ cutting : Cutting EndsProgram (Program.ofString (render tokens)).text,
      cutting.tokens = tokens ∧ cutting.rest = [] := by
  obtain ⟨pieces, text, fits, same⟩ := exists_pieces tokens true wellFormed
  -- no mark is dropped from the end of the rendered text
  have whole : (Program.ofString (render tokens)).text = joined pieces [] := by
    have unmarked := joined_getLast?_ne_endMark fits
    simp only [Program.ofString, render, text, unmarked, if_false]
  exact ⟨⟨pieces, [], [], whole, fits, by simp, by simp [EndsProgram]⟩, same, rfl⟩

theorem tokenize_render_of_wellFormed {tokens : List Token}
    (wellFormed : ∀ token ∈ tokens, token.WellFormed) : tokenize (render tokens) = .ok tokens := by
  obtain ⟨cutting, same, _⟩ := exists_cutting_render wellFormed
  rw [tokenize_of_cutting cutting, same]

/-! ### All tokens that are read are well-formed -/

theorem wellFormed_of_fits {pieces : List Piece} {tail : List Char} (fits : Fits pieces tail) :
    ∀ piece ∈ pieces, piece.token.WellFormed := by
  induction pieces with
  | nil => simp
  | cons piece pieces ih =>
    intro other member
    rcases List.mem_cons.mp member with rfl | member
    · exact fits.2.1.wellFormed
    · exact ih fits.2.2 other member

theorem wellFormed_of_tokenize {source : String} {tokens : List Token}
    (read : tokenize source = .ok tokens) : ∀ token ∈ tokens, token.WellFormed := by
  obtain ⟨cutting, rfl⟩ := exists_cutting_of_tokenize read
  intro token member
  obtain ⟨piece, present, rfl⟩ := List.mem_map.mp member
  exact wellFormed_of_fits cutting.fits piece present

/-- Tokens are read back from their rendered form exactly if they are all
well-formed. The tokens of every source are, so rendering them and reading them
again changes nothing. -/
theorem tokenize_render_iff :
    (∀ tokens, tokenize (render tokens) = .ok tokens ↔ ∀ token ∈ tokens, token.WellFormed) ∧
    ∀ source tokens, tokenize source = .ok tokens →
      (∀ token ∈ tokens, token.WellFormed) ∧ tokenize (render tokens) = .ok tokens := by
  refine ⟨fun tokens => ⟨wellFormed_of_tokenize, tokenize_render_of_wellFormed⟩, ?_⟩
  intro source tokens read
  have wellFormed := wellFormed_of_tokenize read
  exact ⟨wellFormed, tokenize_render_of_wellFormed wellFormed⟩

/-- A word before a sign, and a string that ends with the mark of a program's end. -/
theorem tokenize_render_marked :
    tokenize "if a<>1 \"x\x1a\"\x1a" = .ok [.keyword .IF, .name "a", .delimiter .notEqual,
      .number "1", .quoted "x\x1a"] ∧
    tokenize (render [.keyword .IF, .name "a", .delimiter .notEqual, .number "1",
      .quoted "x\x1a"]) = .ok [.keyword .IF, .name "a", .delimiter .notEqual, .number "1",
      .quoted "x\x1a"] := by
  have read : tokenize "if a<>1 \"x\x1a\"\x1a" = .ok [.keyword .IF, .name "a",
      .delimiter .notEqual, .number "1", .quoted "x\x1a"] := by decide +kernel
  exact ⟨read, (tokenize_render_iff.2 _ _ read).2⟩

end Listing

end LineBasic

import LineBasic.Listing
import LineBasic.Proofs.Lexing

/-!
# The lexical grammar

A cutting takes a text apart: blanks and a spelled token, again and again, then
blanks and a rest. Nothing is lost, since the parts make up the text. Every text
has a cutting, whose rest either ends the program or leaves a quotation mark
open, and it has only one: a token is as long as it can be. `tokenize` finds it.
-/

namespace LineBasic.Listing

/-! ### Cuttings -/

/-- A token of a text, with the blanks before it and the characters that spell it. -/
structure Piece where
  blanks : List Char
  raw : List Char
  token : Token

/-- The text that pieces make up with `tail` behind them. -/
def joined : List Piece → (tail : List Char) → List Char
  | [], tail => tail
  | piece :: pieces, tail => piece.blanks ++ (piece.raw ++ joined pieces tail)

/-- Every piece consists of blanks and of a token that is spelled in front of
what follows it. -/
def Fits : List Piece → (tail : List Char) → Prop
  | [], _ => True
  | piece :: pieces, tail =>
    (∀ c ∈ piece.blanks, isBlank c = true) ∧
      Spells piece.token piece.raw (joined pieces tail) ∧ Fits pieces tail

/-- A text as blanks and tokens in turn, with a rest of the given kind. -/
structure Cutting (kind : List Char → Prop) (text : List Char) where
  pieces : List Piece
  blanks : List Char
  rest : List Char
  whole : text = joined pieces (blanks ++ rest)
  fits : Fits pieces (blanks ++ rest)
  blank : ∀ c ∈ blanks, isBlank c = true
  stops : kind rest

namespace Cutting

variable {kind : List Char → Prop} {text : List Char}

def tokens (cutting : Cutting kind text) : List Token := cutting.pieces.map Piece.token

/-- A cutting with one more piece in front. -/
def cons {blanks raw behind : List Char} {token : Token}
    (blank : ∀ c ∈ blanks, isBlank c = true) (spells : Spells token raw behind)
    (cutting : Cutting kind behind) : Cutting kind (blanks ++ (raw ++ behind)) where
  pieces := ⟨blanks, raw, token⟩ :: cutting.pieces
  blanks := cutting.blanks
  rest := cutting.rest
  whole := by rw [joined, ← cutting.whole]
  fits := ⟨blank, cutting.whole ▸ spells, cutting.fits⟩
  blank := cutting.blank
  stops := cutting.stops

end Cutting

/-! ### Every text has a cutting -/

theorem length_le_joined {pieces : List Piece} {tail : List Char} (fits : Fits pieces tail) :
    pieces.length ≤ (joined pieces tail).length := by
  induction pieces with
  | nil => simp
  | cons piece pieces ih =>
    have bound := ih fits.2.2
    have positive := fits.2.1.length_pos
    simp only [joined, List.length_append, List.length_cons]
    omega

theorem exists_cutting (text : List Char) :
    Nonempty (Cutting EndsProgram text) ∨ Nonempty (Cutting OpensQuote text) := by
  -- on the length of the text: what stands behind a token is shorter
  induction size : text.length using Nat.strong_induction_on generalizing text with
  | _ count ih =>
    obtain ⟨blanks, rest, rfl, blank, started⟩ := exists_longest isBlank text
    rcases spelled_or_stops rest started with ⟨token, raw, behind, rfl, spells⟩ | ends | opens
    · have shorter : behind.length < count := by
        have positive := spells.length_pos
        simp only [List.length_append] at size
        omega
      exact (ih behind.length shorter behind rfl).imp
        (Nonempty.map (Cutting.cons blank spells)) (Nonempty.map (Cutting.cons blank spells))
    · exact Or.inl ⟨⟨[], blanks, rest, rfl, trivial, blank, ends⟩⟩
    · exact Or.inr ⟨⟨[], blanks, rest, rfl, trivial, blank, opens⟩⟩

/-! ### Tokenizing follows the cutting -/

theorem tokensWithin_piece {blanks raw behind : List Char} {token : Token} (budget : Nat)
    (blank : ∀ c ∈ blanks, isBlank c = true) (spells : Spells token raw behind) :
    tokensWithin (budget + 1) (blanks ++ (raw ++ behind)) =
      (tokensWithin budget behind).map (token :: ·) := by
  have going := spells.ne_endOfProgram
  rw [tokensWithin, dropWhile_longest blank spells.head_not_blank, lex_of_spells spells]
  cases token <;> simp_all

theorem tokensWithin_ends {blanks rest : List Char} (budget : Nat)
    (blank : ∀ c ∈ blanks, isBlank c = true) (ends : EndsProgram rest) :
    tokensWithin (budget + 1) (blanks ++ rest) = .ok [] := by
  rw [tokensWithin, dropWhile_longest blank ends.head_not_blank, lex_of_endsProgram ends]

theorem tokensWithin_opens {blanks rest : List Char} (budget : Nat)
    (blank : ∀ c ∈ blanks, isBlank c = true) (opens : OpensQuote rest) :
    tokensWithin (budget + 1) (blanks ++ rest) = .error .openQuote := by
  rw [tokensWithin, dropWhile_longest blank opens.head_not_blank]
  simp only [lex_of_opensQuote opens]

theorem tokensWithin_joined {pieces : List Piece} {tail : List Char} (budget : Nat)
    (fits : Fits pieces tail) :
    tokensWithin (pieces.length + budget) (joined pieces tail) =
      (tokensWithin budget tail).map (pieces.map Piece.token ++ ·) := by
  induction pieces with
  | nil =>
    rw [joined, List.length_nil, Nat.zero_add]
    cases tokensWithin budget tail <;> simp [Except.map]
  | cons piece pieces ih =>
    obtain ⟨blank, spells, fits⟩ := fits
    rw [joined, List.length_cons, Nat.add_right_comm, tokensWithin_piece _ blank spells, ih fits]
    cases tokensWithin budget tail <;> simp [Except.map]

private theorem budget_split {kind : List Char → Prop} {text : List Char}
    (cutting : Cutting kind text) :
    ∃ spare, text.length + 1 = cutting.pieces.length + (spare + 1) := by
  -- each piece takes a character, so there are fewer of them than the budget allows
  have bound := length_le_joined cutting.fits
  rw [← cutting.whole] at bound
  exact ⟨text.length - cutting.pieces.length, by omega⟩

theorem tokenize_of_cutting {source : String}
    (cutting : Cutting EndsProgram (Program.ofString source).text) :
    tokenize source = .ok cutting.tokens := by
  obtain ⟨spare, split⟩ := budget_split cutting
  rw [tokenize, Program.length, split]
  conv => lhs; arg 2; rw [cutting.whole]
  rw [tokensWithin_joined _ cutting.fits, tokensWithin_ends _ cutting.blank cutting.stops]
  simp [Except.map, Cutting.tokens]

theorem tokenize_of_open_cutting {source : String}
    (cutting : Cutting OpensQuote (Program.ofString source).text) :
    tokenize source = .error .openQuote := by
  obtain ⟨spare, split⟩ := budget_split cutting
  rw [tokenize, Program.length, split]
  conv => lhs; arg 2; rw [cutting.whole]
  rw [tokensWithin_joined _ cutting.fits, tokensWithin_opens _ cutting.blank cutting.stops]
  rfl

theorem exists_cutting_of_tokenize {source : String} {tokens : List Token}
    (read : tokenize source = .ok tokens) :
    ∃ cutting : Cutting EndsProgram (Program.ofString source).text, cutting.tokens = tokens := by
  rcases exists_cutting (Program.ofString source).text with ⟨⟨cutting⟩⟩ | ⟨⟨cutting⟩⟩
  · rw [tokenize_of_cutting cutting, Except.ok.injEq] at read
    exact ⟨cutting, read⟩
  · simp [tokenize_of_open_cutting cutting] at read

/-! ### A text has one cutting only -/

/-- A rest that spells no token, so that a cutting has to stop in front of it. -/
structure SpellsNothing (rest : List Char) : Prop where
  started : ∀ c ∈ rest.head?, isBlank c = false
  token : ∀ token, (lex rest).found = .ok token → token = .endOfProgram

theorem EndsProgram.spellsNothing {rest : List Char} (ends : EndsProgram rest) :
    SpellsNothing rest where
  started := ends.head_not_blank
  token token found := by simpa [lex_of_endsProgram ends, eq_comm] using found

theorem OpensQuote.spellsNothing {rest : List Char} (opens : OpensQuote rest) :
    SpellsNothing rest where
  started := opens.head_not_blank
  token token found := by simp [lex_of_opensQuote opens] at found

private theorem blanks_unique {blanks blanks' rest rest' : List Char}
    (same : blanks ++ rest = blanks' ++ rest')
    (blank : ∀ c ∈ blanks, isBlank c = true) (blank' : ∀ c ∈ blanks', isBlank c = true)
    (started : ∀ c ∈ rest.head?, isBlank c = false)
    (started' : ∀ c ∈ rest'.head?, isBlank c = false) : blanks = blanks' ∧ rest = rest' := by
  constructor
  · rw [← takeWhile_longest blank started, same, takeWhile_longest blank' started']
  · rw [← dropWhile_longest blank started, same, dropWhile_longest blank' started']

private theorem spelling_unique {token token' : Token} {raw raw' behind behind' : List Char}
    (same : raw ++ behind = raw' ++ behind')
    (spells : Spells token raw behind) (spells' : Spells token' raw' behind') :
    token = token' ∧ raw = raw' ∧ behind = behind' := by
  -- both are what is read from the text, which has one result
  have read := lex_of_spells spells
  rw [same, lex_of_spells spells', Lexeme.mk.injEq, Except.ok.injEq] at read
  obtain ⟨raws, behinds⟩ := List.append_inj same read.2.symm
  exact ⟨read.1.symm, raws, behinds⟩

private theorem not_spelled {token : Token} {raw behind rest : List Char}
    (spells : Spells token raw behind) (nothing : SpellsNothing rest) : raw ++ behind ≠ rest := by
  intro same
  have found : (lex rest).found = .ok token := by rw [← same, lex_of_spells spells]
  exact spells.ne_endOfProgram (nothing.token token found)

theorem pieces_unique {pieces pieces' : List Piece} {blanks blanks' rest rest' : List Char}
    (same : joined pieces (blanks ++ rest) = joined pieces' (blanks' ++ rest'))
    (fits : Fits pieces (blanks ++ rest)) (fits' : Fits pieces' (blanks' ++ rest'))
    (blank : ∀ c ∈ blanks, isBlank c = true) (blank' : ∀ c ∈ blanks', isBlank c = true)
    (nothing : SpellsNothing rest) (nothing' : SpellsNothing rest') :
    pieces = pieces' ∧ blanks = blanks' ∧ rest = rest' := by
  induction pieces generalizing pieces' with
  | nil =>
    cases pieces' with
    | nil => exact ⟨rfl, blanks_unique same blank blank' nothing.started nothing'.started⟩
    | cons piece' pieces' =>
      -- the same text cannot spell a token and spell nothing
      obtain ⟨gap', spells', _⟩ := fits'
      have split := blanks_unique same blank gap' nothing.started spells'.head_not_blank
      exact absurd split.2.symm (not_spelled spells' nothing)
  | cons piece pieces ih =>
    obtain ⟨gap, spells, fits⟩ := fits
    cases pieces' with
    | nil =>
      have split := blanks_unique same gap blank' spells.head_not_blank nothing'.started
      exact absurd split.2 (not_spelled spells nothing')
    | cons piece' pieces' =>
      obtain ⟨gap', spells', fits'⟩ := fits'
      -- the gaps agree, then the tokens do, then what is behind them
      have split := blanks_unique same gap gap' spells.head_not_blank spells'.head_not_blank
      obtain ⟨token, raw, behind⟩ := spelling_unique split.2 spells spells'
      obtain ⟨rfl, ends⟩ := ih behind fits fits'
      obtain ⟨blanks, raw, token⟩ := piece
      obtain ⟨blanks', raw', token'⟩ := piece'
      simp_all

theorem cutting_unique {kind : List Char → Prop} {text : List Char}
    (nothing : ∀ rest, kind rest → SpellsNothing rest) : Subsingleton (Cutting kind text) := by
  constructor
  intro one two
  obtain ⟨pieces, blanks, rest⟩ := pieces_unique (one.whole.symm.trans two.whole) one.fits two.fits
    one.blank two.blank (nothing _ one.stops) (nothing _ two.stops)
  cases one
  cases two
  simp_all

/-! ### The grammar of sources -/

/-- A source is tokenized exactly as its program text is cut: successfully if the
rest ends the program, and with an open quotation mark if the rest has one. There
is at most one cutting of either kind, so no token could be longer or shorter. -/
theorem tokenize_iff_cutting (source : String) :
    (∀ tokens, tokenize source = .ok tokens ↔
      ∃ cutting : Cutting EndsProgram (Program.ofString source).text, cutting.tokens = tokens) ∧
    (∀ failure, tokenize source = .error failure ↔
      failure = .openQuote ∧ Nonempty (Cutting OpensQuote (Program.ofString source).text)) ∧
    Subsingleton (Cutting EndsProgram (Program.ofString source).text) ∧
    Subsingleton (Cutting OpensQuote (Program.ofString source).text) := by
  refine ⟨fun tokens => ⟨exists_cutting_of_tokenize, ?_⟩,
    fun failure => ⟨fun failed => ?_, ?_⟩,
    cutting_unique fun _ => EndsProgram.spellsNothing,
    cutting_unique fun _ => OpensQuote.spellsNothing⟩
  · rintro ⟨cutting, rfl⟩
    exact tokenize_of_cutting cutting
  · rcases exists_cutting (Program.ofString source).text with ⟨⟨cutting⟩⟩ | ⟨⟨cutting⟩⟩
    · simp [tokenize_of_cutting cutting] at failed
    · rw [tokenize_of_open_cutting cutting, Except.error.injEq] at failed
      exact ⟨failed.symm, ⟨cutting⟩⟩
  · rintro ⟨rfl, ⟨cutting⟩⟩
    exact tokenize_of_open_cutting cutting

end LineBasic.Listing

import LineBasic.Reading
import Mathlib.Data.List.TakeWhile

/-!
# The spelling of tokens

`Spells` says, class by class, which characters write a token and what may
stand behind them. `lex` finds exactly the spelled tokens: a text that spells
one is read as that token and nothing more (`lex_of_spells`), and the only
other texts are those on which a program ends and the quotation marks that stay
open (`spelled_or_stops`).

A word ends only at a character that no word contains, so the table that
dispatches on the first character and the table that ends a run have to fit
together: no character that starts a word or a number ends one.
-/

namespace LineBasic

/-! ### Character classes -/

theorem isAlpha_iff (c : Char) : c.isAlpha = true ↔
    65 ≤ c.toNat ∧ c.toNat ≤ 90 ∨ 97 ≤ c.toNat ∧ c.toNat ≤ 122 := by
  change (decide (c.val ≥ 'A'.val ∧ c.val ≤ 'Z'.val) ||
    (decide (c.val ≥ 'a'.val) && decide (c.val ≤ 'z'.val))) = true ↔ _
  simp only [Bool.or_eq_true, Bool.and_eq_true, decide_eq_true_eq, ge_iff_le,
    UInt32.le_iff_toNat_le]
  exact Iff.rfl

private theorem alphabeticRanges_ascii : ∀ range ∈ Text.alphabeticRanges,
    range = (0x41, 0x5A) ∨ range = (0x61, 0x7A) ∨ 0xAA ≤ range.1 := by
  decide +kernel

theorem Text.isAlphabetic_ascii (c : Char) (low : c.toNat < 0xAA) :
    Text.isAlphabetic c = c.isAlpha := by
  rw [Text.isAlphabetic, Bool.or_eq_left_iff_imp]
  intro listed
  obtain ⟨range, member, inside⟩ := List.any_eq_true.mp listed
  have bounds : range.1 ≤ c.toNat ∧ c.toNat ≤ range.2 := by simpa using inside
  rw [isAlpha_iff]
  -- the table starts with the two ranges of ASCII letters, and the next is higher up
  rcases alphabeticRanges_ascii range member with rfl | rfl | high
  · exact Or.inl bounds
  · exact Or.inr bounds
  · omega

theorem isAlphabetic_of_endsRun {c : Char} (ends : endsRun c = true) :
    Text.isAlphabetic c = false := by
  simp only [endsRun, endMark, Bool.or_eq_true, beq_iff_eq, List.contains_iff_mem,
    List.mem_cons, List.not_mem_nil, or_false] at ends
  rcases ends with rfl | rfl | rfl | rfl | rfl | rfl | rfl | rfl | rfl | rfl | rfl | rfl | rfl |
    rfl | rfl | rfl | rfl | rfl <;> exact Text.isAlphabetic_ascii _ (by decide)

theorem isAlphabetic_of_isDigit {c : Char} (digit : c.isDigit = true) :
    Text.isAlphabetic c = false := by
  rw [Char.isDigit_iff_toNat] at digit
  change 48 ≤ c.toNat ∧ c.toNat ≤ 57 at digit
  rw [Text.isAlphabetic_ascii c (by omega), ← Bool.not_eq_true, isAlpha_iff]
  omega

theorem isDigit_of_endsRun {c : Char} (ends : endsRun c = true) : c.isDigit = false := by
  simp only [endsRun, endMark, Bool.or_eq_true, beq_iff_eq, List.contains_iff_mem,
    List.mem_cons, List.not_mem_nil, or_false] at ends
  rcases ends with rfl | rfl | rfl | rfl | rfl | rfl | rfl | rfl | rfl | rfl | rfl | rfl | rfl |
    rfl | rfl | rfl | rfl | rfl <;> rfl

theorem Delimiter.spelling_of_ofChar? {c : Char} {sign : Delimiter}
    (known : Delimiter.ofChar? c = some sign) :
    sign.spelling.toList = [c] ∧ endsRun c = true := by
  unfold Delimiter.ofChar? at known
  split at known <;> cases known <;> exact ⟨rfl, rfl⟩

theorem Delimiter.ofChar?_eq_none {c : Char} (starts : endsRun c = false) :
    Delimiter.ofChar? c = none := by
  cases known : Delimiter.ofChar? c with
  | none => rfl
  | some sign => simp [(Delimiter.spelling_of_ofChar? known).2] at starts

/-! ### Keywords -/

theorem Keyword.spelling_injective {word other : Keyword} (same : word.spelling = other.spelling) :
    word = other := by
  revert same
  cases word <;> cases other <;> decide

theorem Keyword.ofWord?_eq_some_iff (text : String) (word : Keyword) :
    Keyword.ofWord? text = some word ↔ text.toUpper = word.spelling := by
  constructor
  · intro found
    have same := List.find?_some found
    exact (beq_iff_eq.mp same).symm
  · intro same
    cases found : Keyword.ofWord? text with
    | none =>
      -- every keyword is in the list, so the search does not miss this one
      have differs := List.find?_eq_none.mp found word (by cases word <;> decide)
      simp [same] at differs
    | some other =>
      have found' := List.find?_some found
      rw [beq_iff_eq, same] at found'
      rw [Keyword.spelling_injective found']

/-! ### Spellings -/

/-- Characters that all can belong to one word or number. -/
def IsRun (raw : List Char) : Prop := ∀ c ∈ raw, endsRun c = false

def IsWord (raw : List Char) : Prop := (∃ c ∈ raw.head?, Text.isAlphabetic c = true) ∧ IsRun raw

def IsNumeral (raw : List Char) : Prop := (∃ c ∈ raw.head?, c.isDigit = true) ∧ IsRun raw

/-- Characters that can stand between quotation marks. -/
def IsQuotable (raw : List Char) : Prop := ∀ c ∈ raw, c ≠ '"' ∧ c ≠ '\r' ∧ c ≠ '\n'

/-- No word or number goes on in this text. -/
def RunEnds (behind : List Char) : Prop := ∀ c ∈ behind.head?, endsRun c = true

/-- What stands behind a sign does not make it a longer one. -/
def SignEnds : Delimiter → (behind : List Char) → Prop
  | .less, behind => behind.head? ≠ some '>' ∧ behind.head? ≠ some '='
  | .greater, behind => behind.head? ≠ some '='
  | _, _ => True

/-- The characters `raw` write a token when `behind` follows them. -/
inductive Spells : Token → (raw behind : List Char) → Prop
  | sign {sign : Delimiter} {behind : List Char} (ends : SignEnds sign behind) :
      Spells (.delimiter sign) sign.spelling.toList behind
  | lineFeed {behind : List Char} : Spells .endOfLine ['\n'] behind
  | linePair {behind : List Char} : Spells .endOfLine ['\r', '\n'] behind
  | carriageReturn {behind : List Char} (alone : behind.head? ≠ some '\n') :
      Spells .endOfLine ['\r'] behind
  | quoted {text : String} {behind : List Char} (quotable : IsQuotable text.toList) :
      Spells (.quoted text) ('"' :: (text.toList ++ ['"'])) behind
  /-- A keyword may be written in any ASCII case. -/
  | keyword {word : Keyword} {raw behind : List Char} (shape : IsWord raw)
      (ends : RunEnds behind) (same : raw.map Char.toUpper = word.spelling.toList) :
      Spells (.keyword word) raw behind
  | name {text : String} {behind : List Char} (shape : IsWord text.toList)
      (ends : RunEnds behind)
      (free : ∀ word : Keyword, text.toList.map Char.toUpper ≠ word.spelling.toList) :
      Spells (.name text) text.toList behind
  | number {text : String} {behind : List Char} (shape : IsNumeral text.toList)
      (ends : RunEnds behind) : Spells (.number text) text.toList behind

/-- The tokens that can be read from some text. -/
def Token.WellFormed : Token → Prop
  | .delimiter _ | .keyword _ | .endOfLine => True
  | .name text => IsWord text.toList ∧
      ∀ word : Keyword, text.toList.map Char.toUpper ≠ word.spelling.toList
  | .number text => IsNumeral text.toList
  | .quoted text => IsQuotable text.toList
  | .endOfProgram => False

/-- A character that starts neither a token nor a gap between tokens. -/
def startsNothing (c : Char) : Bool :=
  !(isBlank c || c == '\r' || c == '\n' || c == '<' || c == '>' || c == '"' ||
    (Delimiter.ofChar? c).isSome || Text.isAlphabetic c || c.isDigit)

/-- A program ends at this text, which may be empty. -/
def EndsProgram (text : List Char) : Prop := ∀ c ∈ text.head?, startsNothing c = true

/-- A quotation mark that no other closes on its line. -/
def OpensQuote (text : List Char) : Prop :=
  ∃ body behind : List Char, text = '"' :: (body ++ behind) ∧ IsQuotable body ∧
    ∀ c ∈ behind.head?, c = '\r' ∨ c = '\n'

/-! ### Texts of one class of characters -/

theorem takeWhile_longest {α : Type} {keep : α → Bool} {body rest : List α}
    (inside : ∀ a ∈ body, keep a = true) (stops : ∀ a ∈ rest.head?, keep a = false) :
    (body ++ rest).takeWhile keep = body := by
  have none : rest.takeWhile keep = [] := by cases rest <;> simp_all
  rw [List.takeWhile_append_of_pos inside, none, List.append_nil]

theorem dropWhile_longest {α : Type} {keep : α → Bool} {body rest : List α}
    (inside : ∀ a ∈ body, keep a = true) (stops : ∀ a ∈ rest.head?, keep a = false) :
    (body ++ rest).dropWhile keep = rest := by
  have all : rest.dropWhile keep = rest := by cases rest <;> simp_all
  rw [List.dropWhile_append_of_pos inside, all]

/-- Every text starts with a longest part of one class. -/
theorem exists_longest {α : Type} (keep : α → Bool) (text : List α) :
    ∃ body rest, text = body ++ rest ∧ (∀ a ∈ body, keep a = true) ∧
      ∀ a ∈ rest.head?, keep a = false := by
  refine ⟨text.takeWhile keep, text.dropWhile keep, List.takeWhile_append_dropWhile.symm,
    fun a member => List.mem_takeWhile_imp member, fun a head => ?_⟩
  have stops := List.head?_dropWhile_not keep text
  rw [Option.mem_def.mp head] at stops
  simpa using stops

theorem unbrokenRun_append {raw behind : List Char} (run : IsRun raw) (ends : RunEnds behind) :
    unbrokenRun (raw ++ behind) = raw := by
  apply takeWhile_longest
  · intro c member
    simp [run c member]
  · intro c head
    simp [ends c head]

/-! ### Every spelled token is read -/

/-- Only these characters are looked at before the class of a character is. -/
theorem lex_plain {c : Char} {rest : List Char} (plain : c ∉ ['\r', '\n', '<', '>', '"']) :
    lex (c :: rest) = lexPlain c rest := by
  unfold lex
  split <;> simp_all

private theorem not_run_start : ∀ c ∈ ['\r', '\n', '<', '>', '"'],
    Text.isAlphabetic c = false ∧ c.isDigit = false := by
  intro c member
  simp only [List.mem_cons, List.not_mem_nil, or_false] at member
  rcases member with rfl | rfl | rfl | rfl | rfl <;>
    exact ⟨Text.isAlphabetic_ascii _ (by decide), by decide⟩

theorem lex_word {raw behind : List Char} (shape : IsWord raw) (ends : RunEnds behind) :
    lex (raw ++ behind) = ⟨.ok (.ofWord (String.ofList raw)), raw.length⟩ := by
  obtain ⟨⟨c, head, alphabetic⟩, run⟩ := shape
  obtain ⟨rest, rfl⟩ := List.head?_eq_some_iff.mp head
  have unknown := Delimiter.ofChar?_eq_none (run c (by simp))
  have plain : c ∉ ['\r', '\n', '<', '>', '"'] := fun member => by
    simp [(not_run_start c member).1] at alphabetic
  have whole := unbrokenRun_append run ends
  rw [List.cons_append] at whole ⊢
  simp only [lex_plain plain, lexPlain, whole, unknown, alphabetic, if_true]

theorem lex_numeral {raw behind : List Char} (shape : IsNumeral raw) (ends : RunEnds behind) :
    lex (raw ++ behind) = ⟨.ok (.number (String.ofList raw)), raw.length⟩ := by
  obtain ⟨⟨c, head, digit⟩, run⟩ := shape
  obtain ⟨rest, rfl⟩ := List.head?_eq_some_iff.mp head
  have unknown := Delimiter.ofChar?_eq_none (run c (by simp))
  have plain : c ∉ ['\r', '\n', '<', '>', '"'] := fun member => by
    simp [(not_run_start c member).2] at digit
  have whole := unbrokenRun_append run ends
  rw [List.cons_append] at whole ⊢
  simp only [lex_plain plain, lexPlain, whole, unknown, isAlphabetic_of_isDigit digit, digit,
    Bool.false_eq_true, if_false, if_true]

theorem endsQuote_eq_false_iff (c : Char) :
    endsQuote c = false ↔ c ≠ '"' ∧ c ≠ '\r' ∧ c ≠ '\n' := by
  simp [endsQuote, and_assoc]

theorem lexQuoted_closed {body behind : List Char} (quotable : IsQuotable body) :
    lexQuoted (body ++ '"' :: behind) = ⟨.ok (.quoted (String.ofList body)), body.length + 2⟩ := by
  have inside : (body ++ '"' :: behind).takeWhile (fun c => !endsQuote c) = body := by
    apply takeWhile_longest
    · intro c member
      simp [(endsQuote_eq_false_iff c).mpr (quotable c member)]
    · simp [endsQuote]
  simp only [lexQuoted, inside, List.drop_left]

theorem lexQuoted_open {body behind : List Char} (quotable : IsQuotable body)
    (ends : ∀ c ∈ behind.head?, c = '\r' ∨ c = '\n') :
    lexQuoted (body ++ behind) = ⟨.error .openQuote, body.length + 1⟩ := by
  have inside : (body ++ behind).takeWhile (fun c => !endsQuote c) = body := by
    apply takeWhile_longest
    · intro c member
      simp [(endsQuote_eq_false_iff c).mpr (quotable c member)]
    · intro c head
      rcases ends c head with rfl | rfl <;> rfl
  simp only [lexQuoted, inside, List.drop_left]
  cases behind with
  | nil => rfl
  | cons c behind => rcases ends c rfl with rfl | rfl <;> rfl

theorem Token.ofWord_keyword {raw : List Char} {word : Keyword}
    (same : raw.map Char.toUpper = word.spelling.toList) :
    Token.ofWord (String.ofList raw) = .keyword word := by
  have upper : (String.ofList raw).toUpper = word.spelling := by
    rw [← String.toList_inj, String.toUpper, String.toList_map, String.toList_ofList, same]
  rw [Token.ofWord, (Keyword.ofWord?_eq_some_iff _ word).mpr upper]

theorem Token.ofWord_name {text : String}
    (free : ∀ word : Keyword, text.toList.map Char.toUpper ≠ word.spelling.toList) :
    Token.ofWord text = .name text := by
  cases found : Keyword.ofWord? text with
  | none => rw [Token.ofWord, found]
  | some word =>
    have upper := (Keyword.ofWord?_eq_some_iff text word).mp found
    rw [← String.toList_inj, String.toUpper, String.toList_map] at upper
    exact absurd upper (free word)

theorem lex_of_spells {token : Token} {raw behind : List Char} (spells : Spells token raw behind) :
    lex (raw ++ behind) = ⟨.ok token, raw.length⟩ := by
  cases spells with
  | @sign sign _ ends =>
    cases sign
    -- the two signs that open a longer one are read alone only in front of other characters
    case less =>
      cases behind with
      | nil => rfl
      | cons c behind =>
        have longer : c ≠ '>' ∧ c ≠ '=' := by simpa [SignEnds] using ends
        simp [Delimiter.spelling, lex, longer]
    case greater =>
      cases behind with
      | nil => rfl
      | cons c behind =>
        have longer : c ≠ '=' := by simpa [SignEnds] using ends
        simp [Delimiter.spelling, lex, longer]
    all_goals rfl
  | lineFeed => rfl
  | linePair => rfl
  | carriageReturn alone =>
    cases behind with
    | nil => rfl
    | cons c behind =>
      have pair : c ≠ '\n' := by simpa using alone
      simp [lex, pair]
  | @quoted text _ quotable =>
    have closed := @lexQuoted_closed text.toList behind quotable
    simpa [lex] using closed
  | keyword shape ends same => rw [lex_word shape ends, Token.ofWord_keyword same]
  | name shape ends free =>
    rw [lex_word shape ends, String.ofList_toList, Token.ofWord_name free]
  | number shape ends => rw [lex_numeral shape ends, String.ofList_toList]

/-! ### Texts without a token -/

theorem lex_of_endsProgram {text : List Char} (ends : EndsProgram text) :
    lex text = ⟨.ok .endOfProgram, 0⟩ := by
  cases text with
  | nil => rfl
  | cons c rest =>
    have nothing : startsNothing c = true := ends c rfl
    simp only [startsNothing, Bool.not_eq_true', Bool.or_eq_false_iff, beq_eq_false_iff_ne,
      Option.isSome_eq_false_iff, Option.isNone_iff_eq_none] at nothing
    obtain ⟨⟨⟨⟨⟨⟨⟨⟨_, return_⟩, feed⟩, less⟩, greater⟩, quote⟩, unknown⟩, alphabetic⟩, digit⟩ :=
      nothing
    rw [lex_plain (by simp [return_, feed, less, greater, quote])]
    simp [lexPlain, unknown, alphabetic, digit]

theorem lex_of_opensQuote {text : List Char} (opens : OpensQuote text) :
    (lex text).found = .error .openQuote := by
  obtain ⟨body, behind, rfl, quotable, ends⟩ := opens
  simp [lex, lexQuoted_open quotable ends]

theorem EndsProgram.head_not_blank {text : List Char} (ends : EndsProgram text) :
    ∀ c ∈ text.head?, isBlank c = false := by
  intro c head
  have nothing := ends c head
  simp only [startsNothing, Bool.not_eq_true', Bool.or_eq_false_iff] at nothing
  simp_all

theorem OpensQuote.head_not_blank {text : List Char} (opens : OpensQuote text) :
    ∀ c ∈ text.head?, isBlank c = false := by
  obtain ⟨body, behind, rfl, _⟩ := opens
  simp [isBlank]

/-! ### Every text is one of these -/

private theorem exists_run {c : Char} (rest : List Char) (starts : endsRun c = false) :
    ∃ raw behind, c :: rest = c :: raw ++ behind ∧ IsRun (c :: raw) ∧ RunEnds behind := by
  obtain ⟨raw, behind, rfl, run, ends⟩ := exists_longest (fun c => !endsRun c) rest
  refine ⟨raw, behind, rfl, ?_, fun c head => by simpa using ends c head⟩
  intro other member
  rcases List.mem_cons.mp member with rfl | member
  · exact starts
  · simpa using run other member

private theorem spells_word {c : Char} (rest : List Char)
    (alphabetic : Text.isAlphabetic c = true) :
    ∃ token raw behind, c :: rest = raw ++ behind ∧ Spells token raw behind := by
  have starts : endsRun c = false := by
    cases ends : endsRun c with
    | false => rfl
    | true => simp [isAlphabetic_of_endsRun ends] at alphabetic
  obtain ⟨raw, behind, whole, run, ends⟩ := exists_run rest starts
  have shape : IsWord (c :: raw) := ⟨⟨c, rfl, alphabetic⟩, run⟩
  -- a run that spells a keyword in any case is never a name
  by_cases known : ∃ word : Keyword, (c :: raw).map Char.toUpper = word.spelling.toList
  · obtain ⟨word, same⟩ := known
    exact ⟨_, _, _, whole, .keyword shape ends same⟩
  · have free : ∀ word : Keyword, (c :: raw).map Char.toUpper ≠ word.spelling.toList :=
      fun word same => known ⟨word, same⟩
    have spelled : Spells (.name (String.ofList (c :: raw))) (c :: raw) behind := by
      have named := @Spells.name (String.ofList (c :: raw)) behind
      simp only [String.toList_ofList] at named
      exact named shape ends free
    exact ⟨_, _, _, whole, spelled⟩

private theorem spells_numeral {c : Char} (rest : List Char) (digit : c.isDigit = true) :
    ∃ token raw behind, c :: rest = raw ++ behind ∧ Spells token raw behind := by
  have starts : endsRun c = false := by
    cases ends : endsRun c with
    | false => rfl
    | true => simp [isDigit_of_endsRun ends] at digit
  obtain ⟨raw, behind, whole, run, ends⟩ := exists_run rest starts
  have spelled : Spells (.number (String.ofList (c :: raw))) (c :: raw) behind := by
    have shape : IsNumeral (c :: raw) := ⟨⟨c, rfl, digit⟩, run⟩
    have numbered := @Spells.number (String.ofList (c :: raw)) behind
    simp only [String.toList_ofList] at numbered
    exact numbered shape ends
  exact ⟨_, _, _, whole, spelled⟩

private theorem spells_sign {c : Char} {sign : Delimiter} (rest : List Char)
    (known : Delimiter.ofChar? c = some sign) : Spells (.delimiter sign) [c] rest := by
  have single := (Delimiter.spelling_of_ofChar? known).1
  have ends : SignEnds sign rest := by
    unfold Delimiter.ofChar? at known
    split at known <;> cases known <;> trivial
  exact single ▸ Spells.sign ends

private theorem quoted_or_opensQuote (rest : List Char) :
    (∃ token raw behind, '"' :: rest = raw ++ behind ∧ Spells token raw behind) ∨
      OpensQuote ('"' :: rest) := by
  obtain ⟨body, behind, rfl, inside, ends⟩ := exists_longest (fun c => !endsQuote c) rest
  have quotable : IsQuotable body := fun c member =>
    (endsQuote_eq_false_iff c).mp (by simpa using inside c member)
  -- the first character that a string cannot hold closes it or leaves it open
  cases behind with
  | nil => exact Or.inr ⟨body, [], rfl, quotable, by simp⟩
  | cons c behind =>
    by_cases closes : c = '"'
    · subst c
      left
      refine ⟨.quoted (String.ofList body), '"' :: (body ++ ['"']), behind, by simp, ?_⟩
      have closed := @Spells.quoted (String.ofList body) behind
      simp only [String.toList_ofList] at closed
      exact closed quotable
    · right
      refine ⟨body, c :: behind, rfl, quotable, ?_⟩
      have stops : endsQuote c = true := by simpa using ends c rfl
      simpa [endsQuote, closes] using stops

/-- A text that does not start with a blank spells a token, ends the program or
leaves a quotation mark open. -/
theorem spelled_or_stops (text : List Char) (started : ∀ c ∈ text.head?, isBlank c = false) :
    (∃ token raw behind, text = raw ++ behind ∧ Spells token raw behind) ∨
      EndsProgram text ∨ OpensQuote text := by
  -- one case for each line of `lex`; only the last has to look at classes of characters
  fun_cases lex text
  case case1 => exact Or.inr (Or.inl (by simp [EndsProgram]))
  case case2 behind => exact Or.inl ⟨_, ['\r', '\n'], behind, rfl, .linePair⟩
  case case3 behind pair =>
    refine Or.inl ⟨_, ['\r'], behind, rfl, .carriageReturn fun head => ?_⟩
    obtain ⟨rest, same⟩ := List.head?_eq_some_iff.mp head
    exact pair rest same
  case case4 behind => exact Or.inl ⟨_, ['\n'], behind, rfl, .lineFeed⟩
  case case5 behind => exact Or.inl ⟨_, _, behind, rfl, @Spells.sign .notEqual _ trivial⟩
  case case6 behind => exact Or.inl ⟨_, _, behind, rfl, @Spells.sign .lessEqual _ trivial⟩
  case case7 behind unequal equal =>
    refine Or.inl ⟨_, _, behind, rfl, @Spells.sign .less _ ⟨fun head => ?_, fun head => ?_⟩⟩
    · obtain ⟨rest, same⟩ := List.head?_eq_some_iff.mp head
      exact unequal rest same
    · obtain ⟨rest, same⟩ := List.head?_eq_some_iff.mp head
      exact equal rest same
  case case8 behind => exact Or.inl ⟨_, _, behind, rfl, @Spells.sign .greaterEqual _ trivial⟩
  case case9 behind equal =>
    refine Or.inl ⟨_, _, behind, rfl, @Spells.sign .greater _ fun head => ?_⟩
    obtain ⟨rest, same⟩ := List.head?_eq_some_iff.mp head
    exact equal rest same
  case case10 rest => exact (quoted_or_opensQuote rest).imp_right Or.inr
  case case11 c rest _ return_ feed _ _ less _ greater quote =>
    -- the first character is a sign, or starts a run, or starts nothing at all
    cases known : Delimiter.ofChar? c with
    | some sign => exact Or.inl ⟨_, [c], rest, rfl, spells_sign rest known⟩
    | none =>
      cases alphabetic : Text.isAlphabetic c with
      | true => exact Or.inl (spells_word rest alphabetic)
      | false =>
        cases digit : c.isDigit with
        | true => exact Or.inl (spells_numeral rest digit)
        | false =>
          refine Or.inr (Or.inl fun other head => ?_)
          obtain rfl : c = other := by simpa using head
          simp_all [startsNothing]

/-! ### What every spelling has in common -/

theorem endsRun_of_isBlank {c : Char} (blank : isBlank c = true) : endsRun c = true := by
  simp only [isBlank, Bool.or_eq_true, beq_iff_eq] at blank
  rcases blank with rfl | rfl <;> rfl

theorem IsRun.exists_head {raw : List Char} {first : Char → Prop} (run : IsRun raw)
    (starts : ∃ c ∈ raw.head?, first c) : ∃ c rest, raw = c :: rest ∧ isBlank c = false := by
  obtain ⟨c, head, _⟩ := starts
  obtain ⟨rest, rfl⟩ := List.head?_eq_some_iff.mp head
  refine ⟨c, rest, rfl, ?_⟩
  cases blank : isBlank c with
  | false => rfl
  | true => simpa [endsRun_of_isBlank blank] using run c (by simp)

namespace Spells

variable {token : Token} {raw behind : List Char}

theorem ne_endOfProgram (spells : Spells token raw behind) : token ≠ .endOfProgram := by
  cases spells <;> simp

theorem exists_head (spells : Spells token raw behind) :
    ∃ c rest, raw = c :: rest ∧ isBlank c = false := by
  cases spells with
  | @sign sign => cases sign <;> exact ⟨_, _, rfl, rfl⟩
  | lineFeed => exact ⟨_, _, rfl, rfl⟩
  | linePair => exact ⟨_, _, rfl, rfl⟩
  | carriageReturn => exact ⟨_, _, rfl, rfl⟩
  | quoted => exact ⟨_, _, rfl, rfl⟩
  | keyword shape => exact shape.2.exists_head shape.1
  | name shape => exact shape.2.exists_head shape.1
  | number shape => exact shape.2.exists_head shape.1

theorem length_pos (spells : Spells token raw behind) : 0 < raw.length := by
  obtain ⟨c, rest, rfl, _⟩ := spells.exists_head
  simp

theorem head_not_blank (spells : Spells token raw behind) :
    ∀ c ∈ (raw ++ behind).head?, isBlank c = false := by
  obtain ⟨c, rest, rfl, blank⟩ := spells.exists_head
  simpa using blank

theorem wellFormed (spells : Spells token raw behind) : token.WellFormed := by
  cases spells with
  | sign => trivial
  | lineFeed => trivial
  | linePair => trivial
  | carriageReturn => trivial
  | quoted quotable => exact quotable
  | keyword => trivial
  | name shape _ free => exact ⟨shape, free⟩
  | number shape => exact shape

end Spells

end LineBasic

import LineBasic.Proofs.OneProgram
import LineBasic.Terminal

/-!
# Lines of a stream

A terminal cuts the bytes that arrive behind each line feed and decodes what it has cut. Of the
bytes of a text, only those of a line feed are line feeds, so a terminal reads the pieces of the
text, which is what a buffer of these pieces answers.

`Exchange.piped` puts the two consoles side by side.
-/

namespace LineBasic

/-! ### Texts as bytes -/

/-- The bytes of a text. -/
def encodeText (text : String) : List UInt8 := text.toUTF8.data.toList

/-- The bytes of characters, one after the other. -/
def encoded (chars : List Char) : List UInt8 := chars.flatMap String.utf8EncodeChar

theorem encodeText_ofList (chars : List Char) :
    encodeText (String.ofList chars) = encoded chars := by
  rw [encodeText, String.toUTF8_eq_toByteArray, String.toByteArray_ofList, List.utf8Encode,
    List.data_toByteArray, encoded]

theorem encodeText_eq (text : String) : encodeText text = encoded text.toList := by
  rw [← encodeText_ofList, String.ofList_toList]

theorem fromUTF8?_toUTF8 (text : String) : String.fromUTF8? text.toUTF8 = some text := by
  have valid : text.toUTF8.IsValidUTF8 := text.isValidUTF8
  rw [String.fromUTF8?, dif_pos valid]
  rfl

theorem decodeText_encodeText (text : String) : decodeText (encodeText text) = .ok text := by
  have bytes : ⟨(encodeText text).toArray⟩ = text.toUTF8 := by
    rw [encodeText, Array.toArray_toList]
  rw [decodeText, bytes, fromUTF8?_toUTF8]

theorem lineFeed_eq_ofNat_iff {n : Nat} : Terminal.lineFeed = UInt8.ofNat n ↔ n % 256 = 10 := by
  rw [← UInt8.toNat_inj, UInt8.toNat_ofNat']
  exact eq_comm

/-- A byte of another character is no line feed: if it has several, none is below 128. -/
theorem lineFeed_mem_utf8EncodeChar {c : Char} :
    Terminal.lineFeed ∈ String.utf8EncodeChar c ↔ c = '\n' := by
  have value : c = '\n' ↔ c.val.toNat = 10 := by
    rw [Char.ext_iff, ← UInt32.toNat_inj]
    rfl
  rw [value, String.utf8EncodeChar]
  split_ifs <;> simp only [List.mem_cons, List.not_mem_nil, or_false, lineFeed_eq_ofNat_iff] <;>
    omega

/-! ### Pieces -/

/-- Characters cut behind each line feed. What follows the last one is a piece too, unless it is
empty. -/
def cut : List Char → List (List Char)
  | [] => []
  | c :: rest =>
    if c = '\n' then [c] :: cut rest
    else
      match cut rest with
      | [] => [[c]]
      | piece :: pieces => (c :: piece) :: pieces

/-- The pieces of a text, cut behind each line feed. -/
def piecesOf (text : String) : List String := (cut text.toList).map String.ofList

theorem cut_ne_nil (c : Char) (rest : List Char) : cut (c :: rest) ≠ [] := by
  rw [cut]
  split
  · simp
  · split <;> simp

/-- Bytes without a line feed belong to the line of the bytes behind them. -/
theorem splitLine_append {bytes : List UInt8} (within : Terminal.lineFeed ∉ bytes)
    (others : List UInt8) :
    Terminal.splitLine (bytes ++ others) =
      (bytes ++ (Terminal.splitLine others).1, (Terminal.splitLine others).2) := by
  have passed : ∀ byte ∈ bytes, (byte != Terminal.lineFeed) = true := by
    intro byte member
    rw [bne_iff_ne]
    rintro rfl
    exact within member
  simp only [Terminal.splitLine, List.takeWhile_append_of_pos passed, List.length_append,
    Nat.add_assoc, List.take_length_add_append, List.drop_length_add_append]

/-- The first line of the bytes is the first piece, and the rest has the other pieces. -/
theorem splitLine_encoded {chars piece : List Char} {pieces : List (List Char)}
    (cuts : cut chars = piece :: pieces) :
    ∃ rest, Terminal.splitLine (encoded chars) = (encoded piece, encoded rest) ∧
      cut rest = pieces := by
  -- along the first piece, one character and its bytes at a time
  induction chars generalizing piece pieces with
  | nil => cases cuts
  | cons c chars ih =>
    rw [cut] at cuts
    split at cuts
    next ends =>
      cases cuts
      subst ends
      exact ⟨chars, rfl, rfl⟩
    next goes =>
      have within : Terminal.lineFeed ∉ String.utf8EncodeChar c :=
        mt lineFeed_mem_utf8EncodeChar.mp goes
      have bytes (chars : List Char) :
          encoded (c :: chars) = String.utf8EncodeChar c ++ encoded chars := rfl
      rw [bytes, splitLine_append within]
      split at cuts
      next none =>
        -- nothing follows the character
        cases chars with
        | nil =>
          cases cuts
          exact ⟨[], rfl, rfl⟩
        | cons d chars => exact absurd none (cut_ne_nil d chars)
      next first others found =>
        obtain ⟨rest, splits, further⟩ := ih found
        cases cuts
        refine ⟨rest, ?_, further⟩
        rw [splits, bytes]

/-! ### A buffer of pieces beside a terminal -/

/-- A buffer that has the pieces of the text whose bytes a terminal has. -/
structure Piped (buffer : Buffer) (terminal : Terminal) : Prop where
  output : buffer.output = terminal.output
  closed : terminal.closed = true
  input : ∃ chars, terminal.input = encoded chars ∧
    buffer.input = (cut chars).map String.ofList

theorem piped_initial (text : String) :
    Piped { input := piecesOf text } { input := encodeText text } :=
  ⟨rfl, rfl, text.toList, encodeText_eq text, rfl⟩

theorem readLine_agrees {buffer : Buffer} {terminal : Terminal} (piped : Piped buffer terminal) :
    Agree (fun line after line' after' => line = line' ∧ Piped after after')
      (fun reason after reason' after' => reason = reason' ∧ Piped after after')
      (Console.readLine buffer) (Console.readLine terminal) := by
  obtain ⟨output, closed, chars, bytes, lines⟩ := piped
  cases found : cut chars with
  | nil =>
    cases chars with
    | cons c chars => exact absurd found (cut_ne_nil c chars)
    | nil =>
      simp only [Console.readLine, bytes, lines, closed]
      exact .ok ⟨rfl, output, closed, [], bytes, lines⟩
  | cons piece pieces =>
    obtain ⟨rest, splits, further⟩ := splitLine_encoded found
    have some : (encoded chars).isEmpty = false := by
      cases chars with
      | nil => cases found
      | cons c chars => simp [encoded]
    have decoded : decodeText (encoded piece) = .ok (String.ofList piece) := by
      rw [← encodeText_ofList, decodeText_encodeText]
    simp only [Console.readLine, bytes, lines, found, some, splits, decoded, List.map_cons]
    exact .ok ⟨rfl, output, closed, rest, rfl, by rw [further]⟩

/-- A buffer of the pieces of a text beside a terminal with its bytes. -/
def Exchange.piped (config : Config) : Exchange config config Buffer Terminal where
  Consoles := Piped
  Texts := Eq
  Columns := Eq
  same_text := (same config Buffer).same_text
  prompt := (same config Buffer).prompt
  message := (same config Buffer).message
  first_column := (same config Buffer).first_column
  later_column := (same config Buffer).later_column
  padding := (same config Buffer).padding
  write := by
    rintro buffer terminal text _ ⟨output, closed, input⟩ rfl
    exact .ok ⟨congrArg (· ++ text) output, closed, input⟩
  flush piped := .ok piped
  readLine piped := readLine_agrees piped

end LineBasic

import LineBasic.Failure
import LineBasic.Program
import LineBasic.Text.Alphabetic
import LineBasic.Token

/-!
# Reading tokens from text

`lex` finds the token at the front of a text that does not start with a blank,
and how many characters it takes. `Program.read` skips blanks at an offset and
lexes what follows; its result, a `Reading`, also says where the token starts
and where it stops. Reading is a function of the program and the offset alone,
so a token that is read again is the same token.

A character that starts no token ends the program: the token is
`endOfProgram`, it takes no characters, and reading on from there finds it
again.
-/

namespace LineBasic

/-! ### Character classes -/

/-- Blanks separate tokens and belong to none. -/
def isBlank (c : Char) : Bool := c == ' ' || c == '\t'

/-- The characters that no word and no number contains. A quotation mark is not
one of them. -/
def endsRun (c : Char) : Bool :=
  c == endMark || [' ', '\t', '\r', '\n', ',', ';', '<', '>', '+', '-', '/', '*', '%', '^', '=',
    '(', ')'].contains c

/-- The longest start of a text that can belong to one word or number. -/
def unbrokenRun (text : List Char) : List Char := text.takeWhile fun c => !endsRun c

/-- A quotation mark closes a string; a line end or the end of the text leaves
it open. -/
def endsQuote (c : Char) : Bool := c == '"' || c == '\r' || c == '\n'

/-! ### Lexemes -/

/-- What stands at the front of a text, and the number of characters it takes. -/
structure Lexeme where
  found : Except Failure Token
  width : Nat

/-- The token that a word spells. -/
def Token.ofWord (word : String) : Token :=
  match Keyword.ofWord? word with
  | some known => .keyword known
  | none => .name word

/-- A string literal whose opening quotation mark has been passed. -/
def lexQuoted (text : List Char) : Lexeme :=
  let body := text.takeWhile fun c => !endsQuote c
  match text.drop body.length with
  | '"' :: _ => ⟨.ok (.quoted (String.ofList body)), body.length + 2⟩
  | _ => ⟨.error .openQuote, body.length + 1⟩

/-- A text that starts with neither a line end, nor a relational sign, nor a
quotation mark. -/
def lexPlain (c : Char) (rest : List Char) : Lexeme :=
  let found := unbrokenRun (c :: rest)
  if let some sign := Delimiter.ofChar? c then ⟨.ok (.delimiter sign), 1⟩
  else if Text.isAlphabetic c then ⟨.ok (.ofWord (String.ofList found)), found.length⟩
  else if c.isDigit then ⟨.ok (.number (String.ofList found)), found.length⟩
  else ⟨.ok .endOfProgram, 0⟩

/-- The token at the front of a text that does not start with a blank. -/
def lex : List Char → Lexeme
  | [] => ⟨.ok .endOfProgram, 0⟩
  | '\r' :: '\n' :: _ => ⟨.ok .endOfLine, 2⟩
  | '\r' :: _ => ⟨.ok .endOfLine, 1⟩
  | '\n' :: _ => ⟨.ok .endOfLine, 1⟩
  | '<' :: '>' :: _ => ⟨.ok (.delimiter .notEqual), 2⟩
  | '<' :: '=' :: _ => ⟨.ok (.delimiter .lessEqual), 2⟩
  | '<' :: _ => ⟨.ok (.delimiter .less), 1⟩
  | '>' :: '=' :: _ => ⟨.ok (.delimiter .greaterEqual), 2⟩
  | '>' :: _ => ⟨.ok (.delimiter .greater), 1⟩
  | '"' :: rest => lexQuoted rest
  | c :: rest => lexPlain c rest

/-! ### Readings -/

/-- A token, or the failure to read one, with the offsets where it starts and
where reading goes on. -/
structure Reading where
  found : Except Failure Token
  start : Nat
  stop : Nat

namespace Program

/-- The first token at or behind an offset. -/
def read (p : Program) (offset : Nat) : Reading :=
  let text := p.rest offset
  let blanks := (text.takeWhile isBlank).length
  let lexeme := lex (text.drop blanks)
  ⟨lexeme.found, offset + blanks, offset + blanks + lexeme.width⟩

end Program

end LineBasic

import LineBasic.Reading

/-!
# Listings

A listing is a program as a list of tokens. `Listing.tokenize` takes a source
text apart, up to the end of the program, and `Listing.render` writes tokens
out again: one blank between the tokens of a line, so that no two of them run
together.
-/

namespace LineBasic.Listing

/-- The tokens at the front of a text, at most `budget` many. -/
def tokensWithin : (budget : Nat) → List Char → Except Failure (List Token)
  | 0, _ => .ok []
  | budget + 1, text =>
    let text := text.dropWhile isBlank
    let lexeme := lex text
    match lexeme.found with
    | .error failure => .error failure
    | .ok .endOfProgram => .ok []
    | .ok token => (tokensWithin budget (text.drop lexeme.width)).map (token :: ·)

/-- The tokens of a source text, without the one that ends it. Each takes a
character, so there are no more tokens than characters. -/
def tokenize (source : String) : Except Failure (List Token) :=
  let p := Program.ofString source
  tokensWithin (p.length + 1) p.text

/-- The written form of one token within a line. -/
def spell : Token → String
  | .quoted text => "\"" ++ text ++ "\""
  | token => token.lexeme

/-- Writes tokens behind a text that stands at the start of a line or not. -/
def renderFrom : (atLineStart : Bool) → List Token → String
  | _, [] => ""
  | _, .endOfProgram :: _ => ""
  | _, .endOfLine :: rest => "\n" ++ renderFrom true rest
  | true, token :: rest => spell token ++ renderFrom false rest
  | false, token :: rest => " " ++ spell token ++ renderFrom false rest

/-- The source text of a list of tokens. Nothing behind an end of the program
is written. -/
def render (tokens : List Token) : String := renderFrom true tokens

end LineBasic.Listing

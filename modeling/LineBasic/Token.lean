/-!
# Tokens

The words and signs a program is made of. A token carries the text that tells
it apart from others of its kind; `Token.lexeme` is that text for every kind.
-/

namespace LineBasic

inductive Keyword where
  | PRINT | INPUT | IF | THEN | FOR | NEXT | TO | GOTO | GOSUB | RETURN | END | REPEAT | UNTIL
deriving DecidableEq, Repr

inductive Delimiter where
  | comma | semicolon | plus | minus | star | slash | percent | caret | equal
  | leftParen | rightParen | less | greater | lessEqual | greaterEqual | notEqual
deriving DecidableEq, Repr

inductive Token where
  | delimiter (sign : Delimiter)
  | name (text : String)
  | number (text : String)
  | keyword (word : Keyword)
  /-- A string literal, without its quotation marks. -/
  | quoted (text : String)
  | endOfLine
  | endOfProgram
deriving DecidableEq, Repr

/-! ### Keywords -/

namespace Keyword

def all : List Keyword :=
  [PRINT, INPUT, IF, THEN, FOR, NEXT, TO, GOTO, GOSUB, RETURN, END, REPEAT, UNTIL]

def spelling : Keyword → String
  | PRINT => "PRINT"
  | INPUT => "INPUT"
  | IF => "IF"
  | THEN => "THEN"
  | FOR => "FOR"
  | NEXT => "NEXT"
  | TO => "TO"
  | GOTO => "GOTO"
  | GOSUB => "GOSUB"
  | RETURN => "RETURN"
  | END => "END"
  | REPEAT => "REPEAT"
  | UNTIL => "UNTIL"

/-- The keyword that a word spells. The case of its ASCII letters does not
matter; no other character stands for a letter of a keyword. -/
def ofWord? (word : String) : Option Keyword :=
  let upper := word.toUpper
  all.find? fun keyword => keyword.spelling == upper

end Keyword

/-! ### Delimiters -/

namespace Delimiter

def all : List Delimiter :=
  [comma, semicolon, plus, minus, star, slash, percent, caret, equal,
    leftParen, rightParen, less, greater, lessEqual, greaterEqual, notEqual]

def spelling : Delimiter → String
  | comma => ","
  | semicolon => ";"
  | plus => "+"
  | minus => "-"
  | star => "*"
  | slash => "/"
  | percent => "%"
  | caret => "^"
  | equal => "="
  | leftParen => "("
  | rightParen => ")"
  | less => "<"
  | greater => ">"
  | lessEqual => "<="
  | greaterEqual => ">="
  | notEqual => "<>"

def isRelational : Delimiter → Bool
  | less | greater | lessEqual | greaterEqual | equal | notEqual => true
  | _ => false

/-- The delimiters of one character, apart from `<` and `>`, which may open a
longer one. -/
def ofChar? : Char → Option Delimiter
  | ',' => some comma
  | ';' => some semicolon
  | '+' => some plus
  | '-' => some minus
  | '*' => some star
  | '/' => some slash
  | '%' => some percent
  | '^' => some caret
  | '=' => some equal
  | '(' => some leftParen
  | ')' => some rightParen
  | _ => none

end Delimiter

/-! ### Tokens -/

namespace Token

/-- The text of a token, without the quotation marks of a string. -/
def lexeme : Token → String
  | delimiter sign => sign.spelling
  | name text => text
  | number text => text
  | keyword word => word.spelling
  | quoted text => text
  | endOfLine => "\n"
  | endOfProgram => ""

/-- Whether no statement goes on behind this token. -/
def endsLine : Token → Bool
  | endOfLine | endOfProgram => true
  | _ => false

end Token

end LineBasic

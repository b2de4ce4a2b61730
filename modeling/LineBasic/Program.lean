/-!
# Program text

A program is its characters. Positions in it are counted in characters from
zero, and everything that depends on a position looks at the text from there
on, `Program.rest`.

A line ends at a line feed, or at a carriage return that no line feed follows:
the pair of both ends one line only, at its line feed.
-/

namespace LineBasic

structure Program where
  text : List Char
deriving DecidableEq, Repr

/-- Marks the end of a program in files that were padded to whole blocks. -/
def endMark : Char := '\x1a'

namespace Program

/-- The program of a source text. One end mark that closes the source is not
part of it. -/
def ofString (source : String) : Program :=
  let text := source.toList
  ⟨if text.getLast? = some endMark then text.dropLast else text⟩

def length (p : Program) : Nat := p.text.length

def isEmpty (p : Program) : Bool := p.text.isEmpty

/-- The text from an offset on. -/
def rest (p : Program) (offset : Nat) : List Char := p.text.drop offset

def charAt? (p : Program) (offset : Nat) : Option Char := p.text[offset]?

end Program

/-! ### Lines -/

/-- Whether a line ends with the first character of a text. -/
def startsWithLineEnd : List Char → Bool
  | '\n' :: _ => true
  | '\r' :: '\n' :: _ => false
  | '\r' :: _ => true
  | _ => false

/-- The number of characters up to the first line end, itself included, or all
of them where no line ends. -/
def lineWidth : List Char → Nat
  | [] => 0
  | c :: rest => if startsWithLineEnd (c :: rest) then 1 else lineWidth rest + 1

/-- How many lines end within the first `count` characters of a text. -/
def lineEnds : List Char → (count : Nat) → Nat
  | [], _ => 0
  | _, 0 => 0
  | c :: rest, count + 1 =>
    (if startsWithLineEnd (c :: rest) then 1 else 0) + lineEnds rest count

namespace Program

def endsLineAt (p : Program) (offset : Nat) : Bool := startsWithLineEnd (p.rest offset)

/-- The line an offset belongs to, counted from one. An offset behind the text
belongs to its last line. -/
def lineAt (p : Program) (offset : Nat) : Nat := 1 + lineEnds p.text offset

end Program

end LineBasic

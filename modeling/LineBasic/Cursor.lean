import LineBasic.Reading

/-!
# The cursor

A cursor stands at an offset of a program and remembers where the token read
last started, until it is moved in another way. This is what lets one token be
given back: reading on from its start finds it again.
-/

namespace LineBasic

structure Cursor where
  offset : Nat := 0
  /-- Where the token read last starts, unless it has been given back. -/
  lastStart : Option Nat := none
deriving DecidableEq, Repr

/-- A computation that moves a cursor and may fail. A failure leaves the cursor
where it arose. -/
abbrev Scan := EStateM Failure Cursor

namespace Cursor

/-- The cursor behind a reading. -/
def behind (reading : Reading) : Cursor := ⟨reading.stop, some reading.start⟩

/-- The cursor in front of a reading. -/
def before (reading : Reading) : Cursor := ⟨reading.start, none⟩

/-- Reads the next token. -/
def next (p : Program) : Scan Token := fun cursor =>
  let reading := p.read cursor.offset
  match reading.found with
  | .ok token => .ok token (behind reading)
  | .error failure => .error failure (behind reading)

/-- Gives the last token back. Without one, nothing changes. -/
def giveBack (cursor : Cursor) : Cursor := ⟨cursor.lastStart.getD cursor.offset, none⟩

/-- The cursor at an offset, or at the end of the program where the offset is
behind it. -/
def jump (p : Program) (target : Nat) : Cursor := ⟨min target p.length, none⟩

/-- The cursor at the start of the next line, or at the end of the program. -/
def skipLine (p : Program) (cursor : Cursor) : Cursor :=
  ⟨cursor.offset + lineWidth (p.rest cursor.offset), none⟩

end Cursor

end LineBasic

import LineBasic.Cursor

/-!
# Labels

A label is a number that is the first token of a line; it names the offset where
the line begins. Before a program runs, the labels of all its lines are
collected, up to the first line on which the program ends.
-/

namespace LineBasic

/-- The labels of a program, in the order of their lines. -/
structure Labels where
  entries : List (String × Nat) := []
deriving DecidableEq, Repr

namespace Labels

def length (labels : Labels) : Nat := labels.entries.length

/-- The offset of the line with a label. -/
def find? (labels : Labels) (label : String) : Option Nat := labels.entries.lookup label

/-- The labels and their offsets in the order of the labels' texts. -/
def sorted (labels : Labels) : List (String × Nat) :=
  labels.entries.mergeSort fun left right => left.1 ≤ right.1

/-- Adds the label of one more line. No label may stand on two lines, and a
capacity limits their number. -/
def add (labels : Labels) (capacity : Option Nat) (label : String) (offset : Nat) :
    Except Failure Labels :=
  if (labels.find? label).isSome then .error (.duplicateLabel label)
  else
    match capacity with
    | some capacity =>
      if capacity ≤ labels.length then .error (.labelTableFull capacity)
      else .ok ⟨labels.entries ++ [(label, offset)]⟩
    | none => .ok ⟨labels.entries ++ [(label, offset)]⟩

/-- Goes on collecting labels from the line that starts at the cursor, over at
most `lines` lines. Only the first token of a line is read. -/
def collectFrom (p : Program) (capacity : Option Nat) : (lines : Nat) → Labels → Scan Labels
  | 0, labels => pure labels
  | lines + 1, labels => do
    let lineStart := (← get).offset
    match ← Cursor.next p with
    | .endOfProgram => pure labels
    | .endOfLine => collectFrom p capacity lines labels
    | .number label =>
      match labels.add capacity label lineStart with
      | .error failure => throw failure
      | .ok labels =>
        modify (Cursor.skipLine p)
        collectFrom p capacity lines labels
    | _ =>
      modify (Cursor.skipLine p)
      collectFrom p capacity lines labels

/-- Collects the labels of a program and leaves the cursor at its start. Every
line but the last takes a character, so there are at most one more of them than
characters. -/
def collect (p : Program) (capacity : Option Nat) : Scan Labels := do
  set (Cursor.jump p 0)
  let labels ← collectFrom p capacity (p.length + 1) {}
  set (Cursor.jump p 0)
  pure labels

end Labels

end LineBasic

/-!
# Settings of a run

What can be set from outside without changing what a program computes.
-/

namespace LineBasic

structure Config where
  /-- The distance of the columns to which a comma in a PRINT list moves. -/
  tabWidth : Nat := 8
  /-- How many labels a program may have, if that is limited. -/
  labelCapacity : Option Nat := none
  /-- What INPUT writes when the statement gives no prompt. -/
  inputPrompt : String := "? "
  /-- What INPUT writes when the line it reads is not a number. -/
  invalidInputMessage : String := "Invalid input."
deriving DecidableEq, Repr

namespace Config

/-- Sets the distance of the columns, which is at least one. -/
def withTabWidth (config : Config) (width : Nat) : Config := { config with tabWidth := max width 1 }

def withLabelCapacity (config : Config) (capacity : Nat) : Config :=
  { config with labelCapacity := some capacity }

/-- The number of blanks that lead from a column to the next one that is a
multiple of the tab width. There is always at least one. -/
def padding (config : Config) (column : Nat) : Nat :=
  let width := max config.tabWidth 1
  width - column % width

end Config

end LineBasic

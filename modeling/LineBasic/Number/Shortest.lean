import LineBasic.Number.Binary64

/-!
# The shortest decimal of a number

Of all decimals that are rounded to a given number when read, the shortest are
those on the coarsest decimal grid, and of these the nearest is taken. The
decimals that read back as the number fill an interval that reaches half way to
its two neighbours; the ends belong to it when the significand is even, since a
tie is then read as this number.

On each grid only the two points next to the number need to be tried: if any
point of the grid lies in the interval, so does one of these. The grids are
tried from the coarsest on, and seventeen digits always suffice.
-/

namespace LineBasic.Number

/-- The decimal `digits · 10 ^ place`. -/
structure Decimal where
  digits : Nat
  place : Int
deriving DecidableEq, Repr

/-- A positive number `significand · 2 ^ exponent` beside the grid of step
`10 ^ place`. Quarters of the unit `2 ^ exponent` and points of the grid are
counted in a common unit: a quarter is `quarter` of it and a step is `step`. -/
structure Grid where
  significand : Nat
  quarter : Nat
  step : Nat
  /-- Whether the number below is only half a unit away. -/
  narrow : Bool

namespace Grid

def of (significand : Nat) (exponent place : Int) : Grid where
  significand := significand
  quarter := Nat.pow 2 (exponent - 2).toNat * Nat.pow 10 (-place).toNat
  step := Nat.pow 2 (2 - exponent).toNat * Nat.pow 10 place.toNat
  narrow := significand = hiddenBit && leastExponent < exponent

def lower (g : Grid) : Nat := (4 * g.significand - if g.narrow then 1 else 2) * g.quarter

def middle (g : Grid) : Nat := 4 * g.significand * g.quarter

def upper (g : Grid) : Nat := (4 * g.significand + 2) * g.quarter

/-- Whether a point of the grid reads back as the number. -/
def contains (g : Grid) (point : Nat) : Bool :=
  if g.significand % 2 = 0 then g.lower ≤ point * g.step && point * g.step ≤ g.upper
  else g.lower < point * g.step && point * g.step < g.upper

/-- The point of the grid that reads back as the number and is nearest to it.
Of two equally near points the greater is taken. -/
def nearest? (g : Grid) : Option Nat :=
  let below := g.middle / g.step
  let above := below + 1
  match g.contains below, g.contains above with
  | true, true => some (if 2 * g.middle < (below + above) * g.step then below else above)
  | true, false => some below
  | false, true => some above
  | false, false => none

end Grid

/-- Tries `grids` many grids, from the place `place` on towards finer ones. -/
def shortestWithin (significand : Nat) (exponent : Int) :
    (grids : Nat) → (place : Int) → Decimal
  | 0, place => ⟨0, place⟩
  | grids + 1, place =>
    match (Grid.of significand exponent place).nearest? with
    | some digits => ⟨digits, place⟩
    | none => shortestWithin significand exponent grids (place - 1)

/-- A power of ten above the positive number `significand · 2 ^ exponent`. -/
def coarsestPlace (significand : Nat) (exponent : Int) : Int :=
  (significand.log2 + 1 + exponent) * 30103 / 100000 + 1

/-- The shortest decimal of the positive number `significand · 2 ^ exponent`. -/
def shortest (significand : Nat) (exponent : Int) : Decimal :=
  shortestWithin significand exponent 20 (coarsestPlace significand exponent)

end LineBasic.Number

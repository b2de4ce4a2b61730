import LineBasic.Number.Binary64

/-!
# Remainder, truncation and power

The operations of expressions that are more than one machine operation. The
remainder is computed exactly on natural numbers; a power is a product with as
many factors as the truncated exponent says.
-/

namespace LineBasic.Number

/-! ### Remainder -/

/-- What is left of `x` after taking away `y` as often as it fits, with the sign
of `x`. Both are whole multiples of the smaller of their two units, and so is
the result, which has no more digits than the operand with that unit: nothing is
rounded. -/
def remainder (x y : Float) : Float :=
  match decompose x, decompose y with
  | .finite negative m e, .finite _ n f =>
    let unit := min e f
    let divisor := n * Nat.pow 2 (f - unit).toNat
    if divisor = 0 then 0.0 / 0.0
    else compose negative (m * Nat.pow 2 (e - unit).toNat % divisor) unit
  | .finite .., .infinite _ => x
  | _, _ => 0.0 / 0.0

/-! ### Truncation -/

def largestCount : Int := 2147483647

def smallestCount : Int := -2147483648

/-- The whole number of factors that an exponent asks for: its fraction is
dropped, and what a 32-bit integer cannot hold becomes the nearest one. -/
def toCount (x : Float) : Int :=
  match decompose x with
  | .finite negative m e =>
    let whole : Int := if 0 ≤ e then (m * Nat.pow 2 e.toNat : Nat) else (m / Nat.pow 2 (-e).toNat : Nat)
    if negative then max smallestCount (-whole) else min largestCount whole
  | .infinite negative => if negative then smallestCount else largestCount
  | .undefined => 0

/-! ### Power -/

def zero : Float := 0.0

def one : Float := 1.0

/-- Whether multiplying on changes no more than the sign. -/
def isSettled (product : Float) : Bool :=
  !product.isFinite || product == zero || product.abs == one

/-- Multiplies by `base` up to `factors` times, and stops early at a settled
product. Gives the product and the number of factors not used. -/
def multiply (base : Float) : (factors : Nat) → (product : Float) → Float × Nat
  | 0, product => (product, 0)
  | factors + 1, product =>
    if isSettled product then (product, factors + 1)
    else multiply base factors (product * base)

/-- The product of as many factors `base` as `exponent` asks for. An exponent
equal to zero gives one; any other that asks for fewer than two factors gives
`base`. When the product settled early and the base is negative, the number of
factors decides the sign. -/
def power (base exponent : Float) : Float :=
  if exponent == zero then one
  else
    let count := toCount exponent
    let (product, unused) := multiply base (count - 1).toNat base
    if 0 < unused ∧ base < zero then
      if count % 2 = 0 then product.abs else -product.abs
    else product

end LineBasic.Number

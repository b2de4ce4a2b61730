/-!
# Numbers as exact quantities

Every finite number is a natural number times a power of two, with a sign.
`decompose` gives these parts and `compose` puts them together again, so that
an operation can be carried out exactly on natural numbers.
-/

namespace LineBasic.Number

/-- The exact value of a number. A finite one is `± significand · 2 ^ exponent`,
with the sign kept apart because zero has one too. -/
inductive Parts where
  | finite (negative : Bool) (significand : Nat) (exponent : Int)
  | infinite (negative : Bool)
  | undefined
deriving DecidableEq, Repr

/-- The exponent of the numbers closest to zero; no number has a smaller one. -/
def leastExponent : Int := -1074

/-- The leading bit of a significand, which only the numbers closest to zero lack. -/
def hiddenBit : Nat := Nat.pow 2 52

def decompose (x : Float) : Parts :=
  let bits := x.toBits.toNat
  let negative := decide (Nat.pow 2 63 ≤ bits)
  let scale := bits / hiddenBit % Nat.pow 2 11
  let fraction := bits % hiddenBit
  if scale = 2047 then
    if fraction = 0 then .infinite negative else .undefined
  else if scale = 0 then .finite negative fraction leastExponent
  else .finite negative (hiddenBit + fraction) (leastExponent + (scale - 1 : Nat))

/-- The number with the given parts, where the significand is below `2 ^ 53` and
the exponent is one that a number can have. -/
def compose (negative : Bool) (significand : Nat) (exponent : Int) : Float :=
  let shift := min (52 - significand.log2) (exponent - leastExponent).toNat
  let aligned := significand * Nat.pow 2 shift
  let scale := (exponent - leastExponent).toNat - shift
  let magnitude :=
    if aligned < hiddenBit then aligned else scale * hiddenBit + aligned
  Float.ofBits (UInt64.ofNat (magnitude + if negative then Nat.pow 2 63 else 0))

end LineBasic.Number

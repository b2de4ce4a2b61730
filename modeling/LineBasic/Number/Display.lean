import LineBasic.Number.Shortest

/-!
# The text of a number

Numbers are written with the fewest digits that read back as the same number,
always in positional notation and with no more zeros than the position of the
digits needs. A whole number has no decimal point, and zero keeps its sign.
-/

namespace LineBasic.Number

/-- The decimal digits of a natural number, most significant first. -/
def digitsOf (n : Nat) : List Char := Nat.toDigits 10 n

/-- A decimal in positional notation. -/
def positional (decimal : Decimal) : List Char :=
  let digits := digitsOf decimal.digits
  if 0 ≤ decimal.place then digits ++ List.replicate decimal.place.toNat '0'
  else
    let fraction := (-decimal.place).toNat
    if fraction < digits.length then
      let whole := digits.length - fraction
      digits.take whole ++ '.' :: digits.drop whole
    else '0' :: '.' :: List.replicate (fraction - digits.length) '0' ++ digits

/-- The text that PRINT writes for a number. -/
def display (x : Float) : String :=
  let signed (negative : Bool) (text : List Char) :=
    String.ofList (if negative then '-' :: text else text)
  match decompose x with
  | .undefined => "NaN"
  | .infinite negative => signed negative ['i', 'n', 'f']
  | .finite negative 0 _ => signed negative ['0']
  | .finite negative significand exponent =>
    signed negative (positional (shortest significand exponent))

end LineBasic.Number

/-!
# Reading numbers

A number is written as an optional sign followed by either the name of an
infinite or undefined value, in any case, or by decimal digits with an optional
point among them and an optional exponent. At least one digit is needed, before
or behind the point, and one in the exponent if there is one. The number read
is the one nearest to the decimal.
-/

namespace LineBasic.Number

/-! ### Decimal digits -/

/-- The natural number that a list of decimal digits writes. -/
def ofDigits (digits : List Char) : Nat :=
  digits.foldl (fun value c => 10 * value + (c.toNat - '0'.toNat)) 0

/-- The number nearest to `0.d₁d₂… · 10 ^ exponent`. Beyond the range of numbers
the answer is known without looking at the digits: every number is below
`10 ^ 309`, and every decimal below `10 ^ (-324)` is nearest to zero. -/
def nearest (digits : List Char) (exponent : Int) : Float :=
  let significant := digits.dropWhile (· == '0')
  let magnitude := exponent - (digits.length - significant.length : Nat)
  if significant = [] ∨ magnitude < -324 then 0.0
  else if 310 < magnitude then 1.0 / 0.0
  else
    let place := magnitude - significant.length
    if 0 ≤ place then Float.ofScientific (ofDigits significant) false place.toNat
    else Float.ofScientific (ofDigits significant) true (-place).toNat

/-! ### The written form -/

/-- A text that may start with a sign: whether it is a minus sign, and the rest. -/
def splitSign : List Char → Bool × List Char
  | '-' :: rest => (true, rest)
  | '+' :: rest => (false, rest)
  | rest => (false, rest)

/-- The exponent that a text consists of, if it is nothing else. -/
def exponent? (text : List Char) : Option Int :=
  match text with
  | [] => some 0
  | mark :: rest =>
    let (negative, digits) := splitSign rest
    if mark.toLower = 'e' ∧ digits ≠ [] ∧ digits.all Char.isDigit then
      let value : Int := ofDigits digits
      some (if negative then -value else value)
    else none

/-- The number that an unsigned decimal writes. -/
def decimal? (text : List Char) : Option Float :=
  let whole := text.takeWhile Char.isDigit
  let afterWhole := text.drop whole.length
  let (fraction, afterFraction) :=
    match afterWhole with
    | '.' :: rest =>
      let fraction := rest.takeWhile Char.isDigit
      (fraction, rest.drop fraction.length)
    | _ => ([], afterWhole)
  if whole ++ fraction = [] then none
  else (exponent? afterFraction).map fun exponent =>
    nearest (whole ++ fraction) (whole.length + exponent)

/-- The number that an unsigned text writes. -/
def unsigned? (text : List Char) : Option Float :=
  let lower := text.map Char.toLower
  if lower = "inf".toList ∨ lower = "infinity".toList then some (1.0 / 0.0)
  else if lower = "nan".toList then some (0.0 / 0.0)
  else decimal? text

/-- The number that a text writes, if it writes one. -/
def parse? (text : List Char) : Option Float :=
  let (negative, rest) := splitSign text
  (unsigned? rest).map fun value => if negative then -value else value

end LineBasic.Number

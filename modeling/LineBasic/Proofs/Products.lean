import LineBasic.Proofs.Shapes

/-!
# Products of numbers

A product of two finite numbers is the product of their significands, at the sum of their
exponents, cut to the 53 leading bits and rounded. What is left is the quotient by a power of two
or one more, so a product keeps on the side of one on which its factors are.

`scale` compares a magnitude with one and `signOf` gives a sign, and both are known for a product
of two numbers of the same scale.
-/

namespace LineBasic.Number

open Float.Model (Format UnpackedFloat totalExponent)
open Float.Model.UnpackedFloat

/-! ### Rounding -/

/-- Shifting drops the last bits of a significand. -/
theorem mantissa_shiftRight (extended : ExtendedMantissa) (bits : Nat) :
    (extended >>> bits).mantissa = extended.mantissa / 2 ^ bits := by
  induction bits with
  | zero => exact (Nat.div_one _).symm
  | succ bits ih =>
    change (extended >>> bits).mantissa / 2 = _
    rw [ih, Nat.div_div_eq_div_mul, Nat.pow_succ]

theorem roundedMantissa_cases (extended : ExtendedMantissa) :
    extended.roundedMantissa = extended.mantissa ∨
      extended.roundedMantissa = extended.mantissa + 1 := by
  unfold ExtendedMantissa.roundedMantissa
  cases extended.accuracy with
  | exact => exact .inl rfl
  | inexact order =>
    cases order with
    | lt => exact .inl rfl
    | eq =>
      change _ + _ % 2 = _ ∨ _ + _ % 2 = _
      omega
    | gt => exact .inr rfl

/-- The exponent at which `m · 2 ^ e` is rounded. -/
def unitOf (m : Nat) (e : Int) : Int := max (m.log2 + e - 52) (-1074)

theorem targetExponent_eq (m : Nat) (e : Int) :
    Format.binary64.targetExponent (totalExponent m e) = unitOf m e := by
  have bits := mantissaBits_binary64
  have least : Format.binary64.minExponent = -1074 := rfl
  unfold Format.targetExponent totalExponent unitOf
  omega

theorem shiftToTargetExponent_eq (m : Nat) (e : Int) (accuracy : Accuracy) :
    shiftToTargetExponent .binary64 m e accuracy =
      (ExtendedMantissa.ofMantissaAndAccuracy m accuracy >>> (unitOf m e - e).toNat,
        e + (unitOf m e - e).toNat) := by
  rw [shiftToTargetExponent, targetExponent_eq]
  rfl

/-- What rounding makes of a quotient at an exponent. -/
inductive Rounded (s : Sign) (quotient : Nat) (unit : Int) : UnpackedFloat → Prop
  | zero (none : quotient = 0) : Rounded s quotient unit (.zero s)
  | near {m : Nat} (positive : 0 < m) (close : m = quotient ∨ m = quotient + 1)
      (aligned : Aligned m unit) : Rounded s quotient unit (.finite s m unit positive)
  | carry (full : quotient + 1 = 2 ^ 53) :
      Rounded s quotient unit (.finite s (2 ^ 52) (unit + 1) (by decide))
  | overflow (large : 971 ≤ unit) : Rounded s quotient unit (.infinity s)

variable {s : Sign} {m n : Nat} {e f : Int}

/-- The quotient that is rounded has 53 bits, and fewer only at the least exponent. -/
theorem aligned_quotient (nonzero : m ≠ 0) (coarser : e ≤ unitOf m e) :
    Aligned (m / 2 ^ (unitOf m e - e).toNat) (unitOf m e) := by
  have upper : m.log2 < 53 + (unitOf m e - e).toNat := by
    unfold unitOf
    omega
  refine ⟨?_, by unfold unitOf; omega, ?_⟩
  · rw [Nat.div_lt_iff_lt_mul (Nat.two_pow_pos _), ← Nat.pow_add]
    exact (Nat.log2_lt nonzero).mp upper
  · by_cases least : unitOf m e = -1074
    · exact .inl least
    · have lower : 52 + (unitOf m e - e).toNat ≤ m.log2 := by
        unfold unitOf at least coarser ⊢
        omega
      right
      rw [Nat.le_div_iff_mul_le (Nat.two_pow_pos _), ← Nat.pow_add]
      exact (Nat.le_log2 nonzero).mp lower

/-- A significand at an exponent, which is zero if the significand is. -/
def finiteOrZero (s : Sign) (m : Nat) (e : Int) : UnpackedFloat :=
  if none : m = 0 then .zero s else .finite s m e (Nat.pos_of_ne_zero none)

/-- A significand that fits is left as it is, and one that rounding has made too long is halved. -/
theorem finiteOrZero_shifted (fits : m ≤ 2 ^ 53) (least : -1074 ≤ e) :
    finiteOrZero s (shiftToTargetExponent .binary64 m e .exact).1.mantissa
        (shiftToTargetExponent .binary64 m e .exact).2 =
      if m = 2 ^ 53 then finiteOrZero s (2 ^ 52) (e + 1) else finiteOrZero s m e := by
  rw [shiftToTargetExponent_eq, mantissa_shiftRight]
  change finiteOrZero s (m / 2 ^ _) _ = _
  split
  next full =>
    subst full
    have long : (2 ^ 53 : Nat).log2 = 53 := Nat.log2_two_pow
    have once : (unitOf (2 ^ 53) e - e).toNat = 1 := by
      unfold unitOf
      omega
    rw [once]
    rfl
  next notFull =>
    have short : m.log2 < 53 := by
      rcases m.eq_zero_or_pos with rfl | positive
      · decide
      · exact (Nat.log2_lt (by omega)).mpr (by omega)
    have never : (unitOf m e - e).toNat = 0 := by
      unfold unitOf
      omega
    rw [never, Nat.pow_zero, Nat.div_one]
    exact congrArg (finiteOrZero s m) (Int.add_zero e)

/-- Rounding gives the quotient or the number behind it, at the exponent that is due to it. -/
theorem exists_rounded (coarser : e ≤ unitOf m e) :
    ∃ rounded, (rounded = m / 2 ^ (unitOf m e - e).toNat ∨
        rounded = m / 2 ^ (unitOf m e - e).toNat + 1) ∧
      roundWithAccuracy .binary64 s m e .exact =
        finiteOrZero s (shiftToTargetExponent .binary64 rounded (unitOf m e) .exact).1.mantissa
          (shiftToTargetExponent .binary64 rounded (unitOf m e) .exact).2 := by
  have exponent : e + (unitOf m e - e).toNat = unitOf m e := by omega
  have close := roundedMantissa_cases (shiftToTargetExponent .binary64 m e .exact).1
  rw [shiftToTargetExponent_eq, mantissa_shiftRight] at close
  refine ⟨_, close, ?_⟩
  unfold roundWithAccuracy
  rw [shiftToTargetExponent_eq m e, exponent]
  rfl

theorem rounded_roundWithAccuracy (nonzero : m ≠ 0) (coarser : e ≤ unitOf m e) :
    Rounded s (m / 2 ^ (unitOf m e - e).toNat) (unitOf m e)
      (roundWithAccuracy .binary64 s m e .exact) := by
  obtain ⟨below, least, leading⟩ := aligned_quotient nonzero coarser
  obtain ⟨rounded, close, result⟩ := @exists_rounded s m e coarser
  rw [result]
  generalize m / 2 ^ (unitOf m e - e).toNat = quotient at below leading close ⊢
  rw [finiteOrZero_shifted (by omega) least]
  split
  · exact .carry (by omega)
  · rw [finiteOrZero]
    by_cases none : rounded = 0
    · rw [dif_pos none]
      exact .zero (by omega)
    · rw [dif_neg none]
      exact .near _ close ⟨by omega, least, by omega⟩

theorem Rounded.shape_ofShape {quotient : Nat} {unit : Int} {parts : UnpackedFloat}
    (rounded : Rounded s quotient unit parts) (least : -1074 ≤ unit) :
    Rounded s quotient unit (shape (ofShape parts)) := by
  cases rounded with
  | zero none =>
    rw [Number.shape_ofShape (show IsShape (.zero s) from trivial)]
    exact .zero none
  | overflow large =>
    rw [Number.shape_ofShape (show IsShape (.infinity s) from trivial)]
    exact .overflow large
  | near positive close aligned =>
    rw [shape_ofShape_finite aligned positive]
    by_cases large : 971 < unit
    · rw [if_pos large]
      exact .overflow (by omega)
    · rw [if_neg large]
      exact .near positive close aligned
  | carry full =>
    rw [shape_ofShape_finite ⟨by decide, by omega, .inr (Nat.le_refl _)⟩]
    by_cases large : 971 < unit + 1
    · rw [if_pos large]
      exact .overflow (by omega)
    · rw [if_neg large]
      exact .carry full

/-! ### Products of finite numbers -/

/-- The product of two significands has at least as many bits as are kept. -/
theorem le_unitOf_mul (first : Aligned m e) (second : Aligned n f) (nonzero : m * n ≠ 0) :
    e + f ≤ unitOf (m * n) (e + f) := by
  obtain ⟨-, -, leading⟩ := first
  obtain ⟨-, -, leading'⟩ := second
  -- one significand has 53 bits, unless both exponents are the least and their sum is below it
  have long (wide : 2 ^ 52 ≤ m ∨ 2 ^ 52 ≤ n) : 52 ≤ (m * n).log2 := by
    rw [Nat.le_log2 nonzero]
    have left : m * 1 ≤ m * n := Nat.mul_le_mul_left m (by grind)
    have right : 1 * n ≤ m * n := Nat.mul_le_mul_right n (by grind)
    omega
  unfold unitOf
  omega

theorem rounded_mul {x y : Float} {t : Sign} {positive : 0 < m} {positive' : 0 < n}
    (left : shape x = .finite s m e positive) (right : shape y = .finite t n f positive') :
    Rounded (s * t) (m * n / 2 ^ (unitOf (m * n) (e + f) - (e + f)).toNat)
      (unitOf (m * n) (e + f)) (shape (x * y)) := by
  have nonzero : m * n ≠ 0 := Nat.ne_of_gt (Nat.mul_pos positive positive')
  have product : x * y = ofShape (roundWithAccuracy .binary64 (s * t) (m * n) (e + f) .exact) := by
    change ofShape (mul .binary64 (shape x) (shape y)) = _
    rw [left, right]
    rfl
  rw [product]
  have coarser := le_unitOf_mul (aligned_of_shape left) (aligned_of_shape right) nonzero
  exact (rounded_roundWithAccuracy nonzero coarser).shape_ofShape (by unfold unitOf; omega)

/-! ### Signs and scales -/

/-- The sign of a number, unless it is undefined. -/
def signOf : UnpackedFloat → Option Sign
  | .notANumber => none
  | .infinity s | .zero s | .finite s _ _ _ => some s

/-- How the magnitude of a number compares with one. -/
def scale (parts : UnpackedFloat) : Option Ordering := parts.abs.compare (shape one)

theorem scale_finite {positive : 0 < m} :
    scale (.finite s m e positive) = some ((compare e (-52)).then (compare m (2 ^ 52))) := rfl

theorem scale_eq_lt_iff {positive : 0 < m} :
    scale (.finite s m e positive) = some .lt ↔ e < -52 ∨ e = -52 ∧ m < 2 ^ 52 := by
  rw [scale_finite, Option.some_inj, Ordering.then_eq_lt, Int.compare_eq_lt, Int.compare_eq_eq,
    Nat.compare_eq_lt]

theorem scale_eq_gt_iff {positive : 0 < m} :
    scale (.finite s m e positive) = some .gt ↔ -52 < e ∨ e = -52 ∧ 2 ^ 52 < m := by
  rw [scale_finite, Option.some_inj, Ordering.then_eq_gt, Int.compare_eq_gt, Int.compare_eq_eq,
    Nat.compare_eq_gt]

theorem scale_eq_eq_iff {positive : 0 < m} :
    scale (.finite s m e positive) = some .eq ↔ e = -52 ∧ m = 2 ^ 52 := by
  rw [scale_finite, Option.some_inj, Ordering.then_eq_eq, Int.compare_eq_eq, Nat.compare_eq_eq]

namespace Rounded

variable {quotient : Nat} {unit : Int} {parts : UnpackedFloat}

theorem signOf_eq (rounded : Rounded s quotient unit parts) : signOf parts = some s := by
  cases rounded <;> rfl

theorem scale_lt (rounded : Rounded s quotient unit parts) (small : unit ≤ -53)
    (room : unit = -53 → quotient + 1 < 2 ^ 53) : scale parts = some .lt := by
  cases rounded with
  | zero => rfl
  | near => exact scale_eq_lt_iff.mpr (by omega)
  | carry => exact scale_eq_lt_iff.mpr (by omega)
  | overflow large => omega

theorem scale_gt (rounded : Rounded s quotient unit parts) (leading : 2 ^ 52 ≤ quotient)
    (large : -52 ≤ unit) (above : unit = -52 → 2 ^ 52 < quotient) : scale parts = some .gt := by
  cases rounded with
  | zero none => omega
  | near positive close => exact scale_eq_gt_iff.mpr (by omega)
  | carry => exact scale_eq_gt_iff.mpr (by omega)
  | overflow => rfl

end Rounded

section Finite

variable {x y : Float} {t : Sign} {positive : 0 < m} {positive' : 0 < n}
  (left : shape x = .finite s m e positive) (right : shape y = .finite t n f positive')
include left right

/-- Two numbers below one have a product below one. -/
theorem scale_mul_of_lt (small : scale (shape x) = some .lt)
    (small' : scale (shape y) = some .lt) : scale (shape (x * y)) = some .lt := by
  rw [left, scale_eq_lt_iff] at small
  rw [right, scale_eq_lt_iff] at small'
  obtain ⟨below, -, leading⟩ := aligned_of_shape left
  obtain ⟨below', -, leading'⟩ := aligned_of_shape right
  have bound : m * n ≤ (2 ^ 53 - 1) * (2 ^ 53 - 1) := Nat.mul_le_mul (by omega) (by omega)
  have bits : (m * n).log2 < 106 :=
    (Nat.log2_lt (Nat.ne_of_gt (Nat.mul_pos positive positive'))).mpr (by omega)
  apply (rounded_mul left right).scale_lt
  · unfold unitOf
    omega
  · intro top
    -- at this exponent 53 bits are dropped, and the quotient is two short of the next power
    have dropped : (unitOf (m * n) (e + f) - (e + f)).toNat = 53 := by
      unfold unitOf at top ⊢
      omega
    rw [dropped]
    omega

/-- Two numbers above one have a product above one. -/
theorem scale_mul_of_gt (large : scale (shape x) = some .gt)
    (large' : scale (shape y) = some .gt) : scale (shape (x * y)) = some .gt := by
  rw [left, scale_eq_gt_iff] at large
  rw [right, scale_eq_gt_iff] at large'
  have aligned := aligned_of_shape left
  have aligned' := aligned_of_shape right
  have leading : 2 ^ 52 ≤ m := by
    have := aligned.leading
    omega
  have leading' : 2 ^ 52 ≤ n := by
    have := aligned'.leading
    omega
  have nonzero : m * n ≠ 0 := Nat.ne_of_gt (Nat.mul_pos positive positive')
  have bound : 2 ^ 52 * 2 ^ 52 ≤ m * n := Nat.mul_le_mul leading leading'
  have bits : 104 ≤ (m * n).log2 := (Nat.le_log2 nonzero).mpr bound
  apply (rounded_mul left right).scale_gt
  · have kept := (aligned_quotient nonzero (le_unitOf_mul aligned aligned' nonzero)).leading
    unfold unitOf at kept ⊢
    omega
  · unfold unitOf
    omega
  · intro bottom
    -- here both exponents are the one of one, so both significands exceed that of one
    have dropped : (unitOf (m * n) (e + f) - (e + f)).toNat = 52 := by
      unfold unitOf at bottom ⊢
      omega
    have above : (2 ^ 52 + 1) * (2 ^ 52 + 1) ≤ m * n := by
      unfold unitOf at bottom
      exact Nat.mul_le_mul (by omega) (by omega)
    rw [dropped]
    omega

end Finite

variable {x y : Float}

/-- A product that needs no rounding. -/
theorem shape_mul {a b : UnpackedFloat} (left : shape x = a) (right : shape y = b)
    (exact : IsShape (mul .binary64 a b)) : shape (x * y) = mul .binary64 a b := by
  subst left right
  exact shape_ofShape exact

/-- The numbers of magnitude one. -/
theorem scale_shape_eq_eq_iff : scale (shape x) = some .eq ↔ x = one ∨ x = -one := by
  constructor
  · intro unit
    cases parts : shape x with
    | notANumber | infinity | zero => rw [parts] at unit; cases unit
    | finite s m e =>
      rw [parts, scale_eq_eq_iff] at unit
      obtain ⟨rfl, rfl⟩ := unit
      cases s with
      | positive => exact .inl (shape_inj.mp parts)
      | negative => exact .inr (shape_inj.mp (parts.trans (shape_neg one).symm))
  · rintro (rfl | rfl) <;> rfl

theorem scale_mul_of_eq (unit : scale (shape x) = some .eq)
    (unit' : scale (shape y) = some .eq) : scale (shape (x * y)) = some .eq := by
  rw [scale_shape_eq_eq_iff] at unit unit' ⊢
  rcases unit with rfl | rfl <;> rcases unit' with rfl | rfl <;> decide +kernel

/-- A product is on the side of one on which both its factors are. -/
theorem scale_mul (same : scale (shape x) = scale (shape y)) :
    scale (shape (x * y)) = scale (shape x) := by
  cases left : shape x with
  | notANumber =>
    rw [shape_mul left rfl trivial]
    rfl
  | infinity s =>
    cases right : shape y with
    | notANumber | zero => rw [left, right] at same; cases same
    | infinity | finite =>
      rw [shape_mul left right trivial]
      rfl
  | zero s =>
    cases right : shape y with
    | notANumber | infinity => rw [left, right] at same; cases same
    | zero | finite =>
      rw [shape_mul left right trivial]
      rfl
  | finite s m e =>
    cases right : shape y with
    | notANumber => rw [left, right] at same; cases same
    | infinity | zero =>
      rw [← left, same, shape_mul left right trivial, right]
      rfl
    | finite t n f =>
      -- this is the one product that is rounded
      rw [← left]
      rcases order : scale (shape x) with _ | (_ | _ | _)
      · rw [left] at order
        cases order
      · exact scale_mul_of_lt left right order (same.symm.trans order)
      · exact scale_mul_of_eq order (same.symm.trans order)
      · exact scale_mul_of_gt left right order (same.symm.trans order)

/-- A product is undefined, or its sign is the product of the signs. -/
theorem signOf_mul : signOf (shape (x * y)) = none ∨
    ∃ s t, signOf (shape x) = some s ∧ signOf (shape y) = some t ∧
      signOf (shape (x * y)) = some (s * t) := by
  cases left : shape x with
  | notANumber =>
    rw [shape_mul left rfl trivial]
    exact .inl rfl
  | infinity s =>
    cases right : shape y with
    | notANumber | zero =>
      rw [shape_mul left right trivial]
      exact .inl rfl
    | infinity t | finite t =>
      rw [shape_mul left right trivial]
      exact .inr ⟨s, t, rfl, rfl, rfl⟩
  | zero s =>
    cases right : shape y with
    | notANumber | infinity =>
      rw [shape_mul left right trivial]
      exact .inl rfl
    | zero t | finite t =>
      rw [shape_mul left right trivial]
      exact .inr ⟨s, t, rfl, rfl, rfl⟩
  | finite s =>
    cases right : shape y with
    | notANumber =>
      rw [shape_mul left right trivial]
      exact .inl rfl
    | infinity t | zero t =>
      rw [shape_mul left right trivial]
      exact .inr ⟨s, t, rfl, rfl, rfl⟩
    | finite t => exact .inr ⟨s, t, rfl, rfl, (rounded_mul left right).signOf_eq⟩

end LineBasic.Number

import LineBasic.Proofs.Products

/-!
# Powers

A power is a product with as many factors as its exponent asks for. `power` stops multiplying as
soon as more factors would change no more than the sign, and then takes the sign from the number
of factors if the base is less than zero.

The magnitude of a product stays the same once it has settled, because a product is on the side of
one on which its factors are. The sign is the one that the number of factors gives, with one
exception: negative zero is not less than zero, so an even power of it keeps its sign.
-/

namespace LineBasic.Number

open Float.Model (UnpackedFloat)
open Float.Model.UnpackedFloat

/-- The base multiplied on the right by itself a number of times. -/
def multiplied (base : Float) : (times : Nat) → Float
  | 0 => base
  | times + 1 => multiplied base times * base

/-- The power by plain multiplication: one for an exponent equal to zero, and otherwise the base
multiplied by itself for each factor but the first. -/
def plainPower (base exponent : Float) : Float :=
  if exponent == zero then one else multiplied base (toCount exponent - 1).toNat

variable {x base : Float}

/-! ### Settled products -/

theorem scale_multiplied (base : Float) (times : Nat) :
    scale (shape (multiplied base times)) = scale (shape base) := by
  induction times with
  | zero => rfl
  | succ times ih =>
    rw [multiplied, scale_mul ih, ih]

theorem abs_eq_one (unit : scale (shape x) = some .eq) : x.abs = one := by
  rcases scale_shape_eq_eq_iff.mp unit with rfl | rfl <;> decide +kernel

/-- Of the cases of a settled number, one with a significand can only be the last. -/
theorem finite_cases_iff {s : Sign} {m : Nat} {e : Int} {positive : 0 < m} {unit : Prop} :
    (UnpackedFloat.finite s m e positive = .notANumber ∨
      (∃ t, UnpackedFloat.finite s m e positive = .infinity t) ∨
      (∃ t, UnpackedFloat.finite s m e positive = .zero t) ∨ unit) ↔ unit := by
  constructor
  · rintro (undefined | ⟨_, infinite⟩ | ⟨_, none⟩ | unit)
    · cases undefined
    · cases infinite
    · cases none
    · exact unit
  · exact fun unit => .inr (.inr (.inr unit))

theorem isSettled_iff : isSettled x ↔
    shape x = .notANumber ∨ (∃ s, shape x = .infinity s) ∨ (∃ s, shape x = .zero s) ∨
      scale (shape x) = some .eq := by
  have unit : x.abs == one ↔ scale (shape x) = some .eq := by
    rw [beq_iff_compare, shape_abs, scale]
  have finite : x.isFinite = (shape x).isFinite := rfl
  rw [isSettled, Bool.or_eq_true, Bool.or_eq_true, unit, beq_iff_compare, finite, shape_zero]
  cases parts : shape x with
  | notANumber => exact iff_of_true (.inl (.inl rfl)) (.inl rfl)
  | infinity s => exact iff_of_true (.inl (.inl rfl)) (.inr (.inl ⟨s, rfl⟩))
  | zero s => exact iff_of_true (.inl (.inr rfl)) (.inr (.inr (.inl ⟨s, rfl⟩)))
  | finite s =>
    rw [finite_cases_iff]
    constructor
    · rintro ((infinite | none) | unit)
      · exact absurd infinite Bool.false_ne_true
      · cases s <;> cases none
      · exact unit
    · exact .inr

/-- Multiplying on by the base keeps the magnitude of a settled product. -/
theorem abs_multiplied_succ {times : Nat} (settled : isSettled (multiplied base times)) :
    (multiplied base (times + 1)).abs = (multiplied base times).abs := by
  have same := scale_multiplied base times
  rw [multiplied]
  generalize multiplied base times = product at settled same
  rw [← shape_inj, shape_abs, shape_abs]
  rcases isSettled_iff.mp settled with undefined | ⟨s, infinite⟩ | ⟨s, none⟩ | unit
  · rw [shape_mul undefined rfl trivial, undefined]
    rfl
  · cases parts : shape base with
    | notANumber | zero => rw [infinite, parts] at same; cases same
    | infinity | finite =>
      rw [shape_mul infinite parts trivial, infinite]
      rfl
  · cases parts : shape base with
    | notANumber | infinity => rw [none, parts] at same; cases same
    | zero | finite =>
      rw [shape_mul none parts trivial, none]
      rfl
  · rw [← shape_abs, ← shape_abs, abs_eq_one unit, abs_eq_one (scale_mul same ▸ unit)]

theorem isSettled_abs : isSettled x.abs ↔ isSettled x := by
  rw [isSettled_iff, isSettled_iff, shape_abs]
  cases shape x with
  | notANumber => rfl
  | infinity s => exact iff_of_true (.inr (.inl ⟨_, rfl⟩)) (.inr (.inl ⟨_, rfl⟩))
  | zero s => exact iff_of_true (.inr (.inr (.inl ⟨_, rfl⟩))) (.inr (.inr (.inl ⟨_, rfl⟩)))
  | finite s => exact finite_cases_iff.trans finite_cases_iff.symm

/-- A settled product stays settled and keeps its magnitude, however many factors follow. -/
theorem abs_multiplied_add {times : Nat} (settled : isSettled (multiplied base times))
    (more : Nat) : (multiplied base (times + more)).abs = (multiplied base times).abs := by
  induction more with
  | zero => rfl
  | succ more ih =>
    have still : isSettled (multiplied base (times + more)) := by
      rw [← isSettled_abs, ih, isSettled_abs]
      exact settled
    exact (abs_multiplied_succ still).trans ih

/-- The factors that are used give a product, and it has settled if there are more. -/
theorem multiply_multiplied (base : Float) (factors times : Nat) :
    ∃ used unused, used + unused = factors ∧
      multiply base factors (multiplied base times) = (multiplied base (times + used), unused) ∧
      (0 < unused → isSettled (multiplied base (times + used))) := by
  induction factors generalizing times with
  | zero => exact ⟨0, 0, rfl, rfl, by omega⟩
  | succ factors ih =>
    rw [multiply]
    split
    next settled => exact ⟨0, factors + 1, by omega, rfl, fun _ => settled⟩
    next =>
      obtain ⟨used, unused, all, result, settles⟩ := ih (times + 1)
      have shift : times + 1 + used = times + (used + 1) := by omega
      rw [shift] at result settles
      exact ⟨used + 1, unused, by omega, result, settles⟩

/-! ### Signs of products -/

/-- An odd number of factors gives the sign of the base, and an even number the positive one. -/
theorem signOf_multiplied (base : Float) (times : Nat) :
    signOf (shape (multiplied base times)) = none ∨
      signOf (shape (multiplied base times)) =
        if times % 2 = 0 then signOf (shape base) else some .positive := by
  induction times with
  | zero => exact .inr rfl
  | succ times ih =>
    rw [multiplied]
    rcases signOf_mul with undefined | ⟨s, t, left, right, product⟩
    · exact .inl undefined
    · right
      rw [left, right] at ih
      rw [product, right]
      rcases Nat.mod_two_eq_zero_or_one times with even | odd
      · rw [if_pos even] at ih
        rw [if_neg (by omega)]
        obtain rfl : s = t := by simpa using ih
        cases s <;> rfl
      · rw [if_neg (by omega)] at ih
        rw [if_pos (by omega)]
        obtain rfl : s = .positive := by simpa using ih
        cases t <;> rfl

theorem abs_of_signOf (notNegative : signOf (shape x) ≠ some .negative) : x.abs = x := by
  rw [← shape_inj, shape_abs]
  cases parts : shape x with
  | notANumber => rfl
  | infinity s | zero s | finite s =>
    rw [parts] at notNegative
    cases s with
    | negative => exact absurd rfl notNegative
    | positive => rfl

theorem neg_abs_of_signOf (notPositive : signOf (shape x) ≠ some .positive) : -x.abs = x := by
  rw [← shape_inj, shape_neg, shape_abs]
  cases parts : shape x with
  | notANumber => rfl
  | infinity s | zero s | finite s =>
    rw [parts] at notPositive
    cases s with
    | positive => exact absurd rfl notPositive
    | negative => rfl

/-- Negative zero is the one negative number that is not less than zero. -/
theorem lt_zero_iff : x < zero ↔ signOf (shape x) = some .negative ∧ x ≠ -zero := by
  rw [lt_iff_compare, shape_zero, ne_eq, ← shape_inj, shape_neg, shape_zero]
  cases shape x with
  | notANumber => exact iff_of_false nofun nofun
  | zero s =>
    cases s with
    | negative => exact iff_of_false nofun fun below => below.2 rfl
    | positive => exact iff_of_false nofun nofun
  | infinity s | finite s =>
    cases s with
    | negative => exact iff_of_true rfl ⟨rfl, nofun⟩
    | positive => exact iff_of_false nofun nofun

section Settled

variable {times : Nat} (settled : isSettled (multiplied base times)) (more : Nat)
include settled

/-- Without a sign, a settled product is not changed by the factors that follow. -/
theorem multiplied_add_of_notNegative (notNegative : signOf (shape base) ≠ some .negative) :
    multiplied base (times + more) = multiplied base times := by
  have positive (times : Nat) : signOf (shape (multiplied base times)) ≠ some .negative := by
    rcases signOf_multiplied base times with sign | sign <;> rw [sign]
    · simp
    · split
      · exact notNegative
      · simp
  rw [← abs_of_signOf (positive (times + more)), abs_multiplied_add settled,
    abs_of_signOf (positive times)]

/-- With a negative base, the number of factors gives the sign. -/
theorem multiplied_add_of_negative (negative : signOf (shape base) = some .negative) :
    multiplied base (times + more) =
      if (times + more) % 2 = 0 then -(multiplied base times).abs
      else (multiplied base times).abs := by
  have sign := signOf_multiplied base (times + more)
  rw [negative] at sign
  rw [← abs_multiplied_add settled more]
  split
  next even =>
    rw [if_pos even] at sign
    exact (neg_abs_of_signOf (by rcases sign with sign | sign <;> rw [sign] <;> simp)).symm
  next odd =>
    rw [if_neg odd] at sign
    exact (abs_of_signOf (by rcases sign with sign | sign <;> rw [sign] <;> simp)).symm

end Settled

/-! ### The power -/

theorem multiplied_neg_zero (times : Nat) :
    multiplied (-zero) times = if times % 2 = 0 then -zero else zero := by
  induction times with
  | zero => rfl
  | succ times ih =>
    rw [multiplied, ih]
    rcases Nat.mod_two_eq_zero_or_one times with even | odd
    · rw [if_pos even, if_neg (by omega)]
      decide +kernel
    · rw [if_neg (by omega), if_pos (by omega)]
      decide +kernel

theorem toCount_of_beq_zero (none : x == zero) : toCount x = 0 := by
  have isZero : x = zero ∨ x = -zero := by
    rw [beq_iff_compare, shape_zero] at none
    rw [← shape_inj, ← shape_inj, shape_neg, shape_zero]
    cases parts : shape x with
    | notANumber => rw [parts] at none; cases none
    | zero s =>
      cases s with
      | negative => exact .inr rfl
      | positive => exact .inl rfl
    | infinity s | finite s => rw [parts] at none; cases s <;> cases none
  rcases isZero with rfl | rfl <;> decide +kernel

variable {exponent : Float}

/-- Any other base gives what multiplying gives. -/
theorem power_of_ne_neg_zero (other : base ≠ -zero) :
    power base exponent = plainPower base exponent := by
  unfold power plainPower
  split
  · rfl
  · obtain ⟨used, unused, all, result, settles⟩ :=
      multiply_multiplied base (toCount exponent - 1).toNat 0
    simp only [multiplied, Nat.zero_add] at result settles
    simp only [result]
    rw [← all]
    rcases unused.eq_zero_or_pos with rfl | more
    · -- multiplying has gone to its end
      rw [if_neg (by simp)]
      rfl
    · have settled := settles more
      by_cases below : base < zero
      · -- the base is one factor more than those that it is multiplied by
        have parity : toCount exponent % 2 = 0 ↔ ¬(used + unused) % 2 = 0 := by omega
        rw [if_pos ⟨more, below⟩, multiplied_add_of_negative settled _ (lt_zero_iff.mp below).1]
        simp only [parity, ite_not]
      · rw [if_neg (by simp [below])]
        have notNegative : signOf (shape base) ≠ some .negative := fun negative =>
          below (lt_zero_iff.mpr ⟨negative, other⟩)
        exact (multiplied_add_of_notNegative settled unused notNegative).symm

/-- An exponent that is not zero leaves negative zero as it is. -/
theorem power_neg_zero (nonzero : ¬exponent == zero) : power (-zero) exponent = -zero := by
  have settled : isSettled (-zero) := by decide +kernel
  have notBelow : ¬-zero < zero := by decide +kernel
  have kept (factors : Nat) : (multiply (-zero) factors (-zero)).1 = -zero := by
    cases factors with
    | zero => rfl
    | succ factors => rw [multiply, if_pos settled]
  unfold power
  rw [if_neg nonzero]
  simp only [notBelow, and_false, if_false]
  exact kept _

theorem power_eq_plainPower_iff (base exponent : Float) :
    power base exponent = plainPower base exponent ↔
      ¬(base = -zero ∧ 2 ≤ toCount exponent ∧ toCount exponent % 2 = 0) := by
  by_cases none : exponent == zero
  · have asksNone := toCount_of_beq_zero none
    refine iff_of_true ?_ (by omega)
    rw [power, plainPower, if_pos none, if_pos none]
  by_cases isNegZero : base = -zero
  · have distinct : -zero ≠ zero := by decide +kernel
    rw [isNegZero, power_neg_zero none, plainPower, if_neg none, multiplied_neg_zero]
    split
    next odd =>
      refine iff_of_true rfl ?_
      rintro ⟨-, several, even⟩
      omega
    next even =>
      refine iff_of_false distinct ?_
      intro agrees
      exact agrees ⟨rfl, by omega, by omega⟩
  · refine iff_of_true (power_of_ne_neg_zero isNegZero) ?_
    rintro ⟨isNegZero', -⟩
    exact isNegZero isNegZero'

/-- The square of negative zero is such a power. -/
theorem power_neg_zero_two :
    power (-zero) 2.0 = -zero ∧ plainPower (-zero) 2.0 = zero ∧ zero ≠ -zero := by
  decide +kernel

end LineBasic.Number

import LineBasic.Number.Arithmetic
import Mathlib.Algebra.Group.Nat.Defs

/-!
# Shapes of numbers

A number is undefined, an infinity, a zero, or a sign with a significand and an exponent. `shape`
gives these parts and `ofShape` puts them together. A significand has 53 bits, and fewer only at
the least exponent, so a number has one shape and a shape of this kind belongs to one number.

A number is stored as a word of three fields. The leading bit of the significand is left out, and
the exponents are counted from one on, so that zero can stand for the least one without this bit.

Sign, magnitude and order are read off the shape.
-/

namespace LineBasic.Number

open Float.Model (Format UnpackedFloat)
open Float.Model.UnpackedFloat

/-- The parts of a number. -/
def shape (x : Float) : UnpackedFloat := x.toModel.unpack

/-- The number with given parts. -/
def ofShape (parts : UnpackedFloat) : Float := .ofModel (.pack parts)

/-- A significand at an exponent, in the one form that a number gives to it. -/
structure Aligned (m : Nat) (e : Int) : Prop where
  below : m < 2 ^ 53
  least : -1074 ≤ e
  leading : e = -1074 ∨ 2 ^ 52 ≤ m

/-- The parts that numbers have. -/
def IsShape : UnpackedFloat → Prop
  | .finite _ m e _ => Aligned m e ∧ e ≤ 971
  | _ => True

theorem exponentBias_binary64 : Format.binary64.exponentBias = 1023 := rfl

theorem mantissaBits_binary64 : Format.binary64.mantissaBits = 53 := rfl

theorem toNat_append {left right : Nat} (high : BitVec left) (low : BitVec right) :
    (high ++ low).toNat = high.toNat * 2 ^ right + low.toNat := by
  rw [BitVec.toNat_append, ← Nat.shiftLeft_add_eq_or_of_lt low.isLt, Nat.shiftLeft_eq]

theorem toNat_leading (significand : BitVec 52) :
    (1#1 ++ significand).toNat = 2 ^ 52 + significand.toNat :=
  toNat_append 1#1 significand

/-! ### The fields of a word -/

section Fields

variable {s : Sign} (word : BitVec Format.binary64.numBits) (exponent : BitVec 11)
  (significand : BitVec 52)

theorem toNat_packComponents :
    (packComponents .binary64 s exponent significand).toNat =
      (s.toBitVec.toNat * 2 ^ 11 + exponent.toNat) * 2 ^ 52 + significand.toNat :=
  (toNat_append ..).trans (congrArg (· * 2 ^ 52 + significand.toNat) (toNat_append ..))

theorem toNat_unpackSign : (unpackSign word).toNat = word.toNat / 2 ^ 63 := by
  have bound : word.toNat < 2 ^ 64 := word.isLt
  have bit : (unpackSign word).toNat = word.toNat >>> 63 % 2 := BitVec.extractLsb_toNat 63 63 word
  rw [bit, Nat.shiftRight_eq_div_pow]
  omega

theorem toNat_unpackExponent : (unpackExponent word).toNat = word.toNat / 2 ^ 52 % 2 ^ 11 := by
  rw [← Nat.shiftRight_eq_div_pow]
  exact BitVec.extractLsb_toNat 62 52 word

theorem toNat_unpackMantissa : (unpackMantissa word).toNat = word.toNat % 2 ^ 52 :=
  BitVec.extractLsb_toNat 51 0 word

theorem sign_packComponents :
    Sign.ofBitVec (unpackSign (packComponents .binary64 s exponent significand)) = s := by
  have bit : unpackSign (packComponents .binary64 s exponent significand) = s.toBitVec := by
    apply BitVec.eq_of_toNat_eq
    rw [toNat_unpackSign, toNat_packComponents]
    omega
  rw [bit]
  cases s <;> rfl

/-- A word is made of its fields. -/
theorem packComponents_fields :
    packComponents .binary64 (.ofBitVec (unpackSign word)) (unpackExponent word)
      (unpackMantissa word) = word := by
  have sign : (Sign.ofBitVec (unpackSign word)).toBitVec = unpackSign word := by
    generalize unpackSign word = bit
    decide +revert
  apply BitVec.eq_of_toNat_eq
  rw [toNat_packComponents, sign, toNat_unpackSign, toNat_unpackExponent, toNat_unpackMantissa]
  omega

end Fields

/-- The parts that a word stands for, by its fields. -/
inductive StandsFor (word : BitVec Format.binary64.numBits) : UnpackedFloat → Prop
  | notANumber (last : unpackExponent word = -1#11) (fraction : unpackMantissa word ≠ 0#52) :
      StandsFor word .notANumber
  | infinity {s : Sign} (sign : .ofBitVec (unpackSign word) = s)
      (last : unpackExponent word = -1#11) (whole : unpackMantissa word = 0#52) :
      StandsFor word (.infinity s)
  | zero {s : Sign} (sign : .ofBitVec (unpackSign word) = s)
      (first : unpackExponent word = 0#11) (whole : unpackMantissa word = 0#52) :
      StandsFor word (.zero s)
  | subnormal {s : Sign} {m : Nat} {e : Int} (positive : 0 < m)
      (sign : .ofBitVec (unpackSign word) = s) (first : unpackExponent word = 0#11)
      (stored : (unpackMantissa word).toNat = m) (least : e = -1074) :
      StandsFor word (.finite s m e positive)
  | normal {s : Sign} {m : Nat} {e : Int} (positive : 0 < m)
      (sign : .ofBitVec (unpackSign word) = s) (notLast : unpackExponent word ≠ -1#11)
      (notFirst : unpackExponent word ≠ 0#11)
      (stored : 2 ^ 52 + (unpackMantissa word).toNat = m)
      (biased : (unpackExponent word).toNat = e + 1075) :
      StandsFor word (.finite s m e positive)

theorem standsFor_unpack (word : BitVec Format.binary64.numBits) :
    StandsFor word (unpack .binary64 word) := by
  unfold unpack
  dsimp only [exponentBias_binary64]
  by_cases last : unpackExponent word = -1#11
  · rw [if_pos last]
    by_cases whole : unpackMantissa word = 0#52
    · rw [if_pos whole]
      exact .infinity rfl last whole
    · rw [if_neg whole]
      exact .notANumber last whole
  rw [if_neg last]
  by_cases first : unpackExponent word = 0#11
  · rw [if_pos first]
    by_cases whole : unpackMantissa word = 0#52
    · rw [dif_pos whole]
      exact .zero rfl first whole
    · rw [dif_neg whole]
      exact .subnormal _ rfl first rfl (by rw [first]; rfl)
  rw [if_neg first]
  exact .normal _ rfl last first (toNat_leading _).symm (by omega)

namespace StandsFor

variable {word : BitVec Format.binary64.numBits} {parts : UnpackedFloat}

/-- A word stands for no other parts than those that are read off it. -/
theorem unpack_eq (stands : StandsFor word parts) : unpack .binary64 word = parts := by
  have distinct : (0#11) ≠ -1#11 := by decide
  unfold unpack
  dsimp only [exponentBias_binary64]
  cases stands with
  | notANumber last fraction => rw [if_pos last, if_neg fraction]
  | infinity sign last whole => rw [if_pos last, if_pos whole, sign]
  | zero sign first whole =>
    rw [if_neg (first ▸ distinct), if_pos first, dif_pos whole, sign]
  | @subnormal _ _ e positive sign first stored least =>
    have exponent : (unpackExponent word).toNat - (1023 + 52 : Int) + 1 = e := by
      rw [first, least]
      rfl
    subst sign stored exponent
    have fraction : unpackMantissa word ≠ 0#52 := fun whole => by simp [whole] at positive
    rw [if_neg (first ▸ distinct), if_pos first, dif_neg fraction]
    rfl
  | @normal _ _ e positive sign notLast notFirst stored biased =>
    have exponent : (unpackExponent word).toNat - (1023 + 52 : Int) = e := by omega
    rw [← toNat_leading] at stored
    subst sign stored exponent
    rw [if_neg notLast, if_neg notFirst]
    rfl

/-- The parts that a word stands for are parts that numbers have. -/
theorem isShape (stands : StandsFor word parts) : IsShape parts := by
  have small : (unpackMantissa word).toNat < 2 ^ 52 := (unpackMantissa word).isLt
  have bounded : (unpackExponent word).toNat < 2048 := (unpackExponent word).isLt
  cases stands with
  | notANumber | infinity | zero => trivial
  | subnormal positive sign first stored least =>
    exact ⟨⟨by omega, by omega, .inl least⟩, by omega⟩
  | normal positive sign notLast notFirst stored biased =>
    have notLast : (unpackExponent word).toNat ≠ 2047 := fun last =>
      notLast (BitVec.eq_of_toNat_eq last)
    have notFirst : (unpackExponent word).toNat ≠ 0 := fun first =>
      notFirst (BitVec.eq_of_toNat_eq first)
    exact ⟨⟨by omega, by omega, .inr (by omega)⟩, by omega⟩

end StandsFor

/-! ### A number and its shape -/

variable {s : Sign} {m : Nat} {e : Int}

/-- The word of aligned parts. -/
theorem pack_finite (aligned : Aligned m e) (positive : 0 < m) :
    pack .binary64 (.finite s m e positive) =
      if 971 < e then packedInfinity .binary64 s
      else if 2 ^ 52 ≤ m then
        packComponents .binary64 s (BitVec.ofNat 11 (e + 1075).toNat) (BitVec.ofNat 52 m)
      else packComponents .binary64 s 0#11 (BitVec.ofNat 52 m) := by
  have biased : (e + Format.binary64.exponentBias + (52 : Nat)).toNat = (e + 1075).toNat := by
    rw [exponentBias_binary64]
    omega
  have least := aligned.least
  have large : 2 ^ 11 ≤ (e + 1075).toNat + 1 ↔ 971 < e := by omega
  have normal : m.log2 + 1 = Format.binary64.mantissaBits ↔ 2 ^ 52 ≤ m := by
    have upper := (Nat.log2_lt (Nat.ne_of_gt positive)).mpr aligned.below
    rw [mantissaBits_binary64, ← Nat.le_log2 (Nat.ne_of_gt positive)]
    omega
  unfold pack
  dsimp only
  simp only [biased, large, normal]

/-- A word that a number has is the word of the parts it stands for. -/
theorem pack_of_standsFor {word : BitVec Format.binary64.numBits} {parts : UnpackedFloat}
    (stands : StandsFor word parts) (valid : Format.binary64.Valid word) :
    pack .binary64 parts = word := by
  have isShape := stands.isShape
  have fields := packComponents_fields word
  have small : (unpackMantissa word).toNat < 2 ^ 52 := (unpackMantissa word).isLt
  cases stands with
  | notANumber last fraction => exact (valid.eq_packedNaN last fraction).symm
  | infinity sign last whole => rwa [sign, last, whole] at fields
  | zero sign first whole => rwa [sign, first, whole] at fields
  | subnormal positive sign first stored =>
    rw [pack_finite isShape.1, if_neg (Int.not_lt.mpr isShape.2), if_neg (by omega), ← stored,
      BitVec.ofNat_toNat, BitVec.setWidth_eq, ← sign, ← first, fields]
  | @normal s m e positive sign notLast notFirst stored biased =>
    have exponent : BitVec.ofNat 11 (e + 1075).toNat = unpackExponent word := by
      rw [← biased, Int.toNat_natCast, BitVec.ofNat_toNat, BitVec.setWidth_eq]
    have significand : BitVec.ofNat 52 m = unpackMantissa word := by
      apply BitVec.eq_of_toNat_eq
      rw [BitVec.toNat_ofNat]
      omega
    rw [pack_finite isShape.1, if_neg (Int.not_lt.mpr isShape.2), if_pos (by omega), exponent,
      significand, ← sign, fields]

/-- Aligned parts are kept, unless their exponent is too large. -/
theorem unpack_pack_finite (aligned : Aligned m e) (positive : 0 < m) :
    unpack .binary64 (pack .binary64 (.finite s m e positive)) =
      if 971 < e then .infinity s else .finite s m e positive := by
  rw [pack_finite aligned positive]
  obtain ⟨below, least, leading⟩ := aligned
  by_cases large : 971 < e
  · rw [if_pos large, if_pos large]
    cases s <;> rfl
  rw [if_neg large, if_neg large]
  apply StandsFor.unpack_eq
  by_cases normal : 2 ^ 52 ≤ m
  · rw [if_pos normal]
    have exponent : (BitVec.ofNat 11 (e + 1075).toNat).toNat = (e + 1075).toNat := by
      rw [BitVec.toNat_ofNat]
      omega
    apply StandsFor.normal positive (sign_packComponents ..)
    all_goals simp only [unpackExponent_packComponents, unpackMantissa_packComponents]
    -- the exponent is neither the last nor the first, which have meanings of their own
    · rw [ne_eq, ← BitVec.toNat_inj, exponent]
      change ¬_ = 2047
      omega
    · rw [ne_eq, ← BitVec.toNat_inj, exponent]
      change ¬_ = 0
      omega
    · rw [BitVec.toNat_ofNat]
      omega
    · omega
  · rw [if_neg normal]
    apply StandsFor.subnormal positive (sign_packComponents ..) unpackExponent_packComponents
    · rw [unpackMantissa_packComponents]
      exact Nat.mod_eq_of_lt (Nat.not_le.mp normal)
    · exact leading.resolve_right normal

theorem isShape_shape (x : Float) : IsShape (shape x) := (standsFor_unpack _).isShape

theorem aligned_of_shape {x : Float} {positive : 0 < m}
    (finite : shape x = .finite s m e positive) : Aligned m e := by
  have isShape := isShape_shape x
  rw [finite] at isShape
  exact isShape.1

theorem ofShape_shape (x : Float) : ofShape (shape x) = x := by
  obtain ⟨⟨bits, valid⟩⟩ := x
  have packed : (unpack .binary64 bits.toBitVec).pack .binary64 = bits.toBitVec :=
    pack_of_standsFor (standsFor_unpack _) valid
  exact congrArg Float.ofModel ((Float.Model.mk.injEq ..).mpr (congrArg UInt64.ofBitVec packed))

/-- A number is known by its shape. -/
theorem shape_inj {x y : Float} : shape x = shape y ↔ x = y := by
  constructor
  · intro same
    rw [← ofShape_shape x, same, ofShape_shape]
  · intro same
    rw [same]

theorem shape_ofShape_finite (aligned : Aligned m e) (positive : 0 < m) :
    shape (ofShape (.finite s m e positive)) =
      if 971 < e then .infinity s else .finite s m e positive :=
  unpack_pack_finite aligned positive

theorem shape_ofShape {parts : UnpackedFloat} (isShape : IsShape parts) :
    shape (ofShape parts) = parts := by
  cases parts with
  | notANumber => rfl
  | infinity s => cases s <;> rfl
  | zero s => cases s <;> rfl
  | finite s m e positive =>
    rw [shape_ofShape_finite isShape.1, if_neg (by have := isShape.2; omega)]

theorem IsShape.neg {parts : UnpackedFloat} (isShape : IsShape parts) : IsShape parts.neg := by
  cases parts <;> exact isShape

theorem IsShape.abs {parts : UnpackedFloat} (isShape : IsShape parts) : IsShape parts.abs := by
  cases parts <;> exact isShape

@[simp] theorem shape_neg (x : Float) : shape (-x) = (shape x).neg :=
  shape_ofShape (isShape_shape x).neg

@[simp] theorem shape_abs (x : Float) : shape x.abs = (shape x).abs :=
  shape_ofShape (isShape_shape x).abs

@[simp] theorem shape_zero : shape zero = .zero .positive := rfl

/-! ### Order -/

theorem lt_iff_compare {x y : Float} : x < y ↔ (shape x).compare (shape y) = some .lt := by
  change (decide (Float.Model.lt _ _ = true)) = true ↔ _
  simp [Float.Model.lt, UnpackedFloat.lt, shape]

theorem le_iff_compare {x y : Float} :
    x ≤ y ↔ ∃ order, (shape x).compare (shape y) = some order ∧ order.isLE := by
  change (decide (Float.Model.le _ _ = true)) = true ↔ _
  simp [Float.Model.le, UnpackedFloat.le, shape, Option.any_eq_true]

theorem beq_iff_compare {x y : Float} : x == y ↔ (shape x).compare (shape y) = some .eq := by
  change ((shape x).compare (shape y) == some .eq) = true ↔ _
  exact beq_iff_eq

/-- Comparing the other way around gives the opposite. -/
theorem compare_swap (a b : UnpackedFloat) : b.compare a = (a.compare b).map Ordering.swap := by
  cases a with
  | notANumber => cases b <;> rfl
  | infinity s =>
    cases b with
    | infinity t => cases s <;> cases t <;> rfl
    | _ => cases s <;> rfl
  | zero s =>
    cases b with
    | infinity t | finite t => cases t <;> rfl
    | _ => rfl
  | finite s m e =>
    cases b with
    | notANumber => cases s <;> rfl
    | zero => cases s <;> rfl
    | infinity t => cases s <;> cases t <;> rfl
    | finite t n f =>
      have exponents : compare f e = (compare e f).swap := Std.OrientedOrd.eq_swap
      have significands : compare n m = (compare m n).swap := Std.OrientedOrd.eq_swap
      cases s <;> cases t <;> dsimp only [UnpackedFloat.compare] <;>
        simp [exponents, significands, Ordering.swap_then]

theorem not_le_of_gt {x y : Float} (greater : x > y) : ¬x ≤ y := by
  intro notGreater
  obtain ⟨order, compared, isLE⟩ := le_iff_compare.mp notGreater
  rw [compare_swap, lt_iff_compare.mp greater] at compared
  cases compared
  cases isLE

end LineBasic.Number

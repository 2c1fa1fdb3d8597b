import Mathlib.Algebra.Order.Floor.Semifield
import Mathlib.Data.Rat.Floor
import Mathlib.Tactic.Positivity
import ProxyBridge.Double.Basic

/-!
# What doubles mean

A pattern of 64 bits is a number by the definition of the format: one bit for the sign, eleven for
the exponent, 52 for the fraction. `Double.meaning` says this in rational numbers, and knows nothing
of the units in which the bridge counts. The two agree, for each of the `2 ^ 64` patterns: a finite
magnitude is its units over the units in one, and so its integer part is a quotient of natural
numbers. That is all that reading a double as a length has to compute.

## Results

* `Double.meaning` — the exact value of a pattern, if it has one.
* `Double.magnitude_eq_units_div` — magnitudes are counted in units.
* `Double.Meaning.length` — the length that a number stands for.
* `Double.toLength_eq` — every double is read as that length.
* `Double.Meaning.length_mono`, `Double.Meaning.length_eq_zero_iff` — the order of lengths, and
  zero.
-/

namespace ProxyBridge

namespace Double

/-! ## The format -/

/-- What a pattern of bits stands for. Both zeros are the rational zero. -/
inductive Meaning where
  | nan
  | infinity (negative : Bool)
  | rational (q : ℚ)
deriving DecidableEq

/-- The magnitude with an exponent field and a fraction. The field has a bias of 1023, and the
fraction comes after a leading one. A field of zero is for the subnormal numbers, which have the
least exponent and no leading one. -/
def magnitude (exponent fraction : ℕ) : ℚ :=
  if exponent = 0 then 2 ^ (-1022 : ℤ) * (fraction / 2 ^ 52)
  else 2 ^ ((exponent : ℤ) - 1023) * (1 + fraction / 2 ^ 52)

/-- The meaning of a pattern, read off its 64 bits as one number. The greatest exponent field is for
infinities and NaNs. -/
def meaning (x : Double) : Meaning :=
  let word := x.bits.toNat
  let negative := decide (2 ^ 63 ≤ word)
  let exponent := word / 2 ^ 52 % 2 ^ 11
  let fraction := word % 2 ^ 52
  if exponent = 2047 then
    if fraction = 0 then .infinity negative else .nan
  else .rational (if negative then -magnitude exponent fraction else magnitude exponent fraction)

/-! ## The fields -/

theorem isNegative_eq (x : Double) : x.isNegative = decide (2 ^ 63 ≤ x.bits.toNat) := by
  have hLast : x.isNegative = x.bits.msb := (BitVec.msb_eq_getLsbD_last x.bits).symm
  rw [hLast, BitVec.msb_eq_decide]

theorem exponentField_eq (x : Double) : x.exponentField = x.bits.toNat / 2 ^ 52 % 2 ^ 11 := by
  rw [exponentField, BitVec.extractLsb'_toNat, Nat.shiftRight_eq_div_pow]

theorem fraction_eq (x : Double) : x.fraction = x.bits.toNat % 2 ^ 52 := by
  rw [fraction, BitVec.extractLsb'_toNat, Nat.shiftRight_zero]

/-- The meaning of a pattern in terms of the fields that the bridge looks at. -/
theorem meaning_eq (x : Double) :
    x.meaning =
      if x.isFinite then
        .rational (if x.isNegative then -magnitude x.exponentField x.fraction
          else magnitude x.exponentField x.fraction)
      else if x.fraction = 0 then .infinity x.isNegative else .nan := by
  rw [meaning, ← isNegative_eq, ← exponentField_eq, ← fraction_eq]
  by_cases hField : x.exponentField = 2047
  · have hFinite : x.isFinite = false := by rw [isFinite, hField, bne_self_eq_false]
    rw [if_pos hField, hFinite, if_neg Bool.false_ne_true]
  · have hFinite : x.isFinite = true := bne_iff_ne.mpr hField
    rw [if_neg hField, if_pos hFinite]

/-- The least subnormal double, and the least double that is too long for a length. -/
example : meaning ⟨0x0000000000000001#64⟩ = .rational (1 / 2 ^ 1074) ∧
    meaning ⟨0x43F0000000000000#64⟩ = .rational (2 ^ 64) := by
  decide +kernel

/-! ## Units -/

/-- One is as many units as there are steps of the exponent and places of the fraction below it. -/
theorem unitsPerOne_cast : (unitsPerOne : ℚ) = 2 ^ 1022 * 2 ^ 52 := by
  have hShift (m n : ℕ) : ((1 <<< (m + n) : ℕ) : ℚ) = 2 ^ m * 2 ^ n := by
    rw [Nat.one_shiftLeft, Nat.cast_pow, Nat.cast_ofNat, pow_add]
  exact hShift 1022 52

/-- The magnitude of a finite double is its units over the units in one. -/
theorem magnitude_eq_units_div (x : Double) :
    magnitude x.exponentField x.fraction = (x.units : ℚ) / unitsPerOne := by
  rw [unitsPerOne_cast, units, significand, shift, magnitude]
  cases x.exponentField with
  | zero =>
    -- subnormal: the fraction counts the units
    have hLeast : (2 : ℚ) ^ (-1022 : ℤ) = 1 / 2 ^ 1022 := by
      rw [zpow_neg, zpow_ofNat, one_div]
    rw [if_pos rfl, if_pos rfl, Nat.zero_sub, Nat.shiftLeft_zero, hLeast, div_mul_div_comm, one_mul]
  | succ k =>
    -- normal: one place to the left for each step of the exponent above the least
    have hPower : (2 : ℚ) ^ (((k + 1 : ℕ) : ℤ) - 1023) = 2 ^ k / 2 ^ 1022 := by
      have hSteps : ((k + 1 : ℕ) : ℤ) - 1023 = (k : ℤ) - (1022 : ℕ) := by omega
      rw [hSteps, zpow_sub₀ two_ne_zero, zpow_natCast, zpow_natCast]
    have hLeading : (1 : ℚ) + x.fraction / 2 ^ 52 = (2 ^ 52 + x.fraction) / 2 ^ 52 := by
      rw [add_div, div_self (pow_ne_zero 52 two_ne_zero)]
    rw [if_neg (Nat.succ_ne_zero k), if_neg (Nat.succ_ne_zero k), Nat.add_sub_cancel,
      Nat.shiftLeft_eq, Nat.one_shiftLeft, hPower, hLeading, div_mul_div_comm, mul_comm]
    push_cast
    rfl

theorem magnitude_nonneg (exponent fraction : ℕ) : 0 ≤ magnitude exponent fraction := by
  unfold magnitude
  split <;> exact mul_nonneg (zpow_nonneg zero_le_two _) (by positivity)

/-- The integer part is a quotient of natural numbers. -/
theorem floor_magnitude (x : Double) : ⌊magnitude x.exponentField x.fraction⌋₊ = x.floor := by
  rw [magnitude_eq_units_div, Nat.floor_div_eq_div, floor]

/-! ## Lengths -/

namespace Meaning

/-- The length that a number stands for. NaNs, infinities and numbers that are not positive stand
for zero, all others for the greatest integer up to their value, as far as 64 bits can hold it. -/
def length : Meaning → ℕ
  | .nan | .infinity _ => 0
  | .rational q => if q ≤ 0 then 0 else min (2 ^ 64 - 1) ⌊q⌋₊

/-- Up to a number that is not positive there is no natural number but zero, if any. -/
theorem length_rational (q : ℚ) : (rational q).length = min (2 ^ 64 - 1) ⌊q⌋₊ := by
  rw [length]
  split
  · next hq => rw [Nat.floor_of_nonpos hq, Nat.min_zero]
  · rfl

/-- A greater number stands for no smaller a length. -/
theorem length_mono {a b : ℚ} (h : a ≤ b) : (rational a).length ≤ (rational b).length := by
  rw [length_rational, length_rational]
  exact min_le_min_left _ (Nat.floor_mono h)

/-- The length is zero for all numbers that are not finite, and those below one. -/
theorem length_eq_zero_iff (m : Meaning) : m.length = 0 ↔ ∀ q, m = rational q → q < 1 := by
  cases m with
  | nan | infinity => exact iff_of_true rfl nofun
  | rational q =>
    rw [length_rational, Nat.min_eq_zero_iff, Nat.floor_eq_zero]
    constructor
    -- the greatest length is not zero, so the integer part is
    · rintro (hMax | hq) r hr
      · cases hMax
      · cases hr
        exact hq
    · exact fun h => Or.inr (h q rfl)

end Meaning

/-- **Every double is read as the length that it stands for**, whatever its 64 bits. -/
theorem toLength_eq (x : Double) : x.toLength = x.meaning.length := by
  have hMax : maxLength = 2 ^ 64 - 1 := rfl
  rw [meaning_eq, toLength]
  cases hFinite : x.isFinite with
  | false =>
    -- an infinity or a NaN, and it does not matter which
    rw [if_neg Bool.false_ne_true, if_neg (by simp)]
    split <;> rfl
  | true =>
    rw [if_pos rfl, Meaning.length_rational]
    cases x.isNegative with
    | false => rw [if_pos (by rfl), if_neg Bool.false_ne_true, floor_magnitude, hMax]
    | true =>
      -- the bridge goes by the sign, so the negative zero is among the negative numbers
      have hNonpos : -magnitude x.exponentField x.fraction ≤ 0 :=
        neg_nonpos.mpr (magnitude_nonneg _ _)
      rw [if_neg (by simp), if_pos rfl, Nat.floor_of_nonpos hNonpos, Nat.min_zero]

end Double

end ProxyBridge

import Mathlib.Algebra.Order.Field.Power
import OfferRules.Number.Decimal
import OfferRules.Proofs.NearestMagnitude

/-!
# Decimals as numbers

A decimal is rounded to a magnitude by the rules of rounding, also where it is settled by its order
of magnitude alone.  So decimals that are the same number are rounded alike, however they are
written.

## Main definitions

* `Decimal.value` — the number that a decimal is.

## Main results

* `Decimal.magnitude?_eq_some_iff`, `Decimal.magnitude?_eq_none_iff` — **decimals are rounded by the
  rules.**
* `Decimal.rounds_toDouble` — the double of a decimal with a sign.
* `Decimal.value_trim` — trailing zeros of the digits do not matter.
-/

namespace OfferRules

attribute [local irreducible] Magnitude.bound Magnitude.perOne Double.wholeBound

/-! ### Lengths -/

theorem lt_pow_decimalLength (n : ℕ) : n < 10 ^ decimalLength n :=
  (Nat.length_toDigits_le_iff (by decide) Nat.length_toDigits_pos).mp (Nat.le_refl _)

theorem pow_le_of_decimalLength {n k : ℕ} (hn : n ≠ 0) (h : k < decimalLength n) : 10 ^ k ≤ n := by
  refine Nat.le_of_not_lt fun hlt => ?_
  rcases Nat.eq_zero_or_pos k with rfl | hk
  · omega
  · exact Nat.not_le_of_lt h ((Nat.length_toDigits_le_iff (by decide) hk).mpr hlt)

/-! ### The range -/

theorem Double.wholeBound_pos : 0 < Double.wholeBound := by
  unfold Double.wholeBound
  generalize 970 = k
  exact Nat.mul_pos (by decide) (Nat.two_pow_pos k)

theorem Double.wholeBound_le : Double.wholeBound ≤ 10 ^ 310 := by
  unfold Double.wholeBound
  decide +kernel

theorem Magnitude.two_mul_perOne_le : 2 * Magnitude.perOne ≤ 10 ^ 325 := by
  unfold Magnitude.perOne
  decide +kernel

/-- What is less than half a unit is rounded to zero. -/
theorem Magnitude.isNearest_zero {q : ℚ} (hq : 0 ≤ q) (h : 2 * q * perOne < 1) :
    Magnitude.zero.IsNearest q := by
  have hone := perOne_cast_pos
  have hzero : Magnitude.zero.value = 0 := by simp [value, zero]
  have hapart : ∀ y : Magnitude, y ≠ .zero → |q - Magnitude.zero.value| < |q - y.value| := by
    intro y hne
    have hunits : (1 : ℚ) ≤ y.units := by
      have hpos : y.units ≠ 0 := fun hy => hne (eq_of_units hy)
      exact_mod_cast Nat.pos_of_ne_zero hpos
    have hlt : 2 * q < y.value := by
      rw [← y.value_mul] at hunits
      exact lt_of_mul_lt_mul_right (lt_of_lt_of_le h hunits) (le_of_lt hone)
    rw [hzero, sub_zero, abs_of_nonneg hq, abs_sub_comm]
    exact lt_abs.mpr (Or.inl (by linarith))
  refine ⟨?_, fun y => ?_, fun y hne htie => absurd htie (ne_of_gt (hapart y hne))⟩
  · have hperOne : (1 : ℚ) ≤ perOne := by exact_mod_cast perOne_pos
    have hbound : (1 : ℚ) ≤ Double.wholeBound := by exact_mod_cast Double.wholeBound_pos
    have hle : 2 * q * 1 ≤ 2 * q * perOne := mul_le_mul_of_nonneg_left hperOne (by linarith)
    linarith
  · by_cases hy : y = .zero
    · rw [hy]
    · exact le_of_lt (hapart y hy)

namespace Decimal

variable {d : Decimal} {x : Magnitude}

/-- The number that a decimal is. -/
def value (d : Decimal) : ℚ := d.digits * 10 ^ d.exponent

theorem value_nonneg (d : Decimal) : 0 ≤ d.value := by
  unfold value
  positivity

/-- A decimal lies between the powers of ten of its leading digit. -/
theorem value_lt (d : Decimal) : d.value < 10 ^ (d.exponent + decimalLength d.digits) := by
  have hdigits : (d.digits : ℚ) < 10 ^ decimalLength d.digits := by
    exact_mod_cast lt_pow_decimalLength d.digits
  rw [add_comm, zpow_add₀ (by norm_num), zpow_natCast]
  exact mul_lt_mul_of_pos_right hdigits (by positivity)

theorem le_value {k : ℕ} (hd : d.digits ≠ 0) (h : k < decimalLength d.digits) :
    10 ^ (d.exponent + k) ≤ d.value := by
  have hdigits : (10 : ℚ) ^ k ≤ d.digits := by exact_mod_cast pow_le_of_decimalLength hd h
  rw [add_comm, zpow_add₀ (by norm_num), zpow_natCast]
  exact mul_le_mul_of_nonneg_right hdigits (by positivity)

/-! ### Rounding -/

theorem digits_div_perOne (n : ℚ) : n * Magnitude.perOne / Magnitude.perOne = n :=
  mul_div_cancel_right₀ n (ne_of_gt Magnitude.perOne_cast_pos)

theorem value_of_nonneg (h : 0 ≤ d.exponent) :
    ((d.digits * Nat.pow 10 d.exponent.toNat * Magnitude.perOne : ℕ) : ℚ) / (1 : ℕ)
      / Magnitude.perOne = d.value := by
  have hpow : ((Nat.pow 10 d.exponent.toNat : ℕ) : ℚ) = 10 ^ d.exponent := by
    rw [← Int.toNat_of_nonneg h, zpow_natCast, Int.toNat_natCast]
    exact Nat.cast_pow 10 _
  rw [Nat.cast_mul, Nat.cast_mul, hpow, Nat.cast_one, div_one, digits_div_perOne, value]

theorem value_of_neg (h : d.exponent < 0) :
    ((d.digits * Magnitude.perOne : ℕ) : ℚ) / (Nat.pow 10 (-d.exponent).toNat : ℕ)
      / Magnitude.perOne = d.value := by
  have hpow : ((Nat.pow 10 (-d.exponent).toNat : ℕ) : ℚ) = (10 ^ d.exponent)⁻¹ := by
    rw [← zpow_neg, ← Int.toNat_of_nonneg (Int.le_of_lt (Int.neg_pos_of_neg h)), zpow_natCast,
      Int.toNat_natCast]
    exact Nat.cast_pow 10 _
  rw [hpow, div_inv_eq_mul, Nat.cast_mul, mul_right_comm, digits_div_perOne, value]

/-- The leading digit alone is out of range. -/
theorem wholeBound_le_value (hd : d.digits ≠ 0) (h : 310 < d.exponent + decimalLength d.digits) :
    (Double.wholeBound : ℚ) ≤ d.value := by
  have hlength : 0 < decimalLength d.digits := Nat.length_toDigits_pos
  have hbound : (Double.wholeBound : ℚ) ≤ 10 ^ (310 : ℤ) := by
    exact_mod_cast Double.wholeBound_le
  have hlead := le_value (k := decimalLength d.digits - 1) hd (by omega)
  refine hbound.trans (le_trans ?_ hlead)
  exact zpow_le_zpow_right₀ (by norm_num) (by omega)

/-- All digits together are less than half a unit. -/
theorem isNearest_zero_of_le (h : d.exponent + decimalLength d.digits ≤ -325) :
    Magnitude.zero.IsNearest d.value := by
  refine Magnitude.isNearest_zero d.value_nonneg ?_
  have hlt : d.value < 10 ^ (-325 : ℤ) :=
    d.value_lt.trans_le (zpow_le_zpow_right₀ (by norm_num) h)
  have hone : (2 * Magnitude.perOne : ℚ) ≤ 10 ^ (325 : ℤ) := by
    exact_mod_cast Magnitude.two_mul_perOne_le
  have hpos : (0 : ℚ) < 2 * Magnitude.perOne := mul_pos two_pos Magnitude.perOne_cast_pos
  calc 2 * d.value * Magnitude.perOne = d.value * (2 * Magnitude.perOne) := by ring
    _ < 10 ^ (-325 : ℤ) * (2 * Magnitude.perOne) := mul_lt_mul_of_pos_right hlt hpos
    _ ≤ 10 ^ (-325 : ℤ) * 10 ^ (325 : ℤ) := mul_le_mul_of_nonneg_left hone (by positivity)
    _ = 1 := by rw [← zpow_add₀ (by norm_num)]; rfl

/-- A decimal is rounded by the rules. -/
theorem magnitude?_spec (d : Decimal) :
    (∃ x, d.magnitude? = some x ∧ x.IsNearest d.value) ∨
      (d.magnitude? = none ∧ (Double.wholeBound : ℚ) ≤ d.value) := by
  unfold magnitude?
  dsimp only
  split
  · next hzero =>
    refine Or.inl ⟨.zero, rfl, Magnitude.isNearest_zero d.value_nonneg ?_⟩
    simp [value, hzero]
  · next hdigits =>
    split
    · next hlarge => exact Or.inr ⟨rfl, wholeBound_le_value hdigits (by omega)⟩
    · split
      · next hsmall => exact Or.inl ⟨.zero, rfl, isNearest_zero_of_le (by omega)⟩
      · split
        · next h =>
          rw [← value_of_nonneg h]
          exact Magnitude.nearest?_spec _ Nat.one_pos
        · next h =>
          rw [← value_of_neg (Int.lt_of_not_ge h)]
          exact Magnitude.nearest?_spec _ (Nat.pow_pos (by decide))

/-- **Decimals are rounded by the rules** to a magnitude. -/
theorem magnitude?_eq_some_iff : d.magnitude? = some x ↔ x.IsNearest d.value := by
  rcases d.magnitude?_spec with ⟨y, hy, hnearest⟩ | ⟨hnone, hle⟩
  · rw [hy, Option.some.injEq]
    exact ⟨fun h => h ▸ hnearest, hnearest.unique⟩
  · rw [hnone]
    exact iff_of_false nofun fun hx => not_le_of_gt hx.inRange hle

/-- Decimals that are the same number are rounded alike. -/
theorem magnitude?_congr {d' : Decimal} (h : d.value = d'.value) :
    d.magnitude? = d'.magnitude? := by
  refine Option.ext fun x => ?_
  rw [magnitude?_eq_some_iff, magnitude?_eq_some_iff, h]

/-- The double of a decimal with a sign is what the decimal is rounded to. -/
theorem rounds_toDouble (negative : Bool) (d : Decimal) :
    (d.toDouble negative).Rounds negative d.value := by
  unfold toDouble
  rcases d.magnitude?_spec with ⟨y, hy, hnearest⟩ | ⟨hnone, hle⟩
  · rw [hy]
    exact ⟨rfl, hnearest⟩
  · rw [hnone]
    exact ⟨rfl, hle⟩

/-- Trailing zeros of the digits do not matter. -/
theorem value_trim (d : Decimal) : d.trim.value = d.value := by
  fun_induction trim d with
  | case1 d h ih =>
    have hdigits : d.digits = d.digits / 10 * 10 := by omega
    have hcast : (d.digits : ℚ) = (d.digits / 10 : ℕ) * 10 := by exact_mod_cast hdigits
    rw [ih, value, value, hcast, mul_assoc, zpow_add_one₀ (by norm_num), mul_comm (10 : ℚ)]
  | case2 d h => rfl

end Decimal
end OfferRules

import Mathlib.Data.Nat.Dist
import OfferRules.Proofs.RoundingOrder

/-!
# How far rounding goes

A rounded quotient is off by half the divisor at most, and by exactly half only if it is even; since
multiples of the divisor are apart by the divisor, none is closer.  The same follows for magnitudes:
those that are no multiple of the last digit that is kept are too small to be closer.

## Main definitions

* `Magnitude.significand` — the leading 53 binary digits of a magnitude.

## Main results

* `dist_roundHalfEven_le`, `roundHalfEven_mod_two` — a rounded quotient is a closest multiple, and
  an even one of two.
* `Magnitude.dist_rounded_le`, `Magnitude.significand_mod_two` — **what is rounded to is a closest
  magnitude**, and of two the one with an even significand.
-/

namespace OfferRules

attribute [local irreducible] Magnitude.bound Magnitude.perOne

/-! ### Rounding a quotient -/

section Quotient

variable (num : ℕ) {den : ℕ}

/-- A rounded quotient is off by half the divisor at most, and then it is even. -/
theorem dist_roundHalfEven (hden : 0 < den) :
    2 * num.dist (roundHalfEven num den * den) ≤ den ∧
      (2 * num.dist (roundHalfEven num den * den) = den → roundHalfEven num den % 2 = 0) := by
  have hsplit := Nat.div_add_mod' num den
  have hlt := Nat.mod_lt num hden
  have hbelow : num.dist (num / den * den) = num % den := by
    unfold Nat.dist
    omega
  have habove : num.dist ((num / den + 1) * den) = den - num % den := by
    rw [Nat.succ_mul]
    unfold Nat.dist
    omega
  unfold roundHalfEven
  dsimp only
  split
  · rw [hbelow]
    omega
  · split
    · rw [habove]
      omega
    · -- in the middle, the even neighbour is chosen
      rcases Nat.mod_two_eq_zero_or_one (num / den) with hmod | hmod
      · rw [hmod, Nat.add_zero, hbelow]
        omega
      · rw [hmod, habove]
        omega

/-- Two multiples of the divisor are apart, so not both can be close. -/
theorem le_dist_add_dist (den : ℕ) {k l : ℕ} (hne : k ≠ l) :
    den ≤ num.dist (k * den) + num.dist (l * den) := by
  have htriangle := Nat.dist.triangle_inequality (k * den) num (l * den)
  have hapart : den ≤ (k * den).dist (l * den) := by
    rw [Nat.dist_mul_right]
    exact Nat.le_mul_of_pos_left den (Nat.dist_pos_of_ne hne)
  rw [Nat.dist_comm (k * den) num] at htriangle
  omega

/-- No multiple of the divisor is closer than the rounded quotient is. -/
theorem dist_roundHalfEven_le (hden : 0 < den) (k : ℕ) :
    num.dist (roundHalfEven num den * den) ≤ num.dist (k * den) := by
  by_cases heq : k = roundHalfEven num den
  · rw [heq]
  · have hhalf := (dist_roundHalfEven num hden).1
    have hapart := le_dist_add_dist num den heq
    omega

/-- Where another multiple of the divisor is as close, the rounded quotient is even. -/
theorem roundHalfEven_mod_two (hden : 0 < den) {k : ℕ} (hne : k ≠ roundHalfEven num den)
    (heq : num.dist (k * den) = num.dist (roundHalfEven num den * den)) :
    roundHalfEven num den % 2 = 0 := by
  obtain ⟨hhalf, heven⟩ := dist_roundHalfEven num hden
  have hapart := le_dist_add_dist num den hne
  exact heven (by omega)

end Quotient

/-! ### The grid -/

theorem excessBits_le {n e : ℕ} (h : n < Nat.pow 2 53 * Nat.pow 2 e) : excessBits n ≤ e := by
  have hpow : Nat.pow 2 53 * Nat.pow 2 e = Nat.pow 2 (53 + e) := (Nat.pow_add 2 53 e).symm
  by_cases hzero : n = 0
  · rw [hzero]
    exact Nat.zero_le e
  · rw [hpow] at h
    have hlog : n.log2 < 53 + e := (Nat.log2_lt hzero).mpr h
    unfold excessBits
    omega

theorem le_excessBits {n e : ℕ} (h : Nat.pow 2 52 * Nat.pow 2 e ≤ n) : e ≤ excessBits n := by
  have hpow : Nat.pow 2 52 * Nat.pow 2 e = Nat.pow 2 (52 + e) := (Nat.pow_add 2 52 e).symm
  have hpos : 0 < Nat.pow 2 (52 + e) := Nat.two_pow_pos _
  rw [hpow] at h
  have hlog : 52 + e ≤ n.log2 := (Nat.le_log2 (by omega)).mpr h
  unfold excessBits
  omega

namespace Magnitude

variable {x y : Magnitude} {num den : ℕ}

/-- The leading binary digits of a magnitude, at most 53, as one number. -/
def significand (x : Magnitude) : ℕ := x.units / Nat.pow 2 (excessBits x.units)

theorem significand_mul (x : Magnitude) :
    x.significand * Nat.pow 2 (excessBits x.units) = x.units :=
  Nat.div_mul_cancel x.dvd_units

theorem significand_lt (x : Magnitude) : x.significand < Nat.pow 2 53 := div_excessBits_lt x.units

theorem significand_eq {q e : ℕ} (hunits : x.units = q * Nat.pow 2 e) (hq : q < Nat.pow 2 53)
    (hlow : e = 0 ∨ Nat.pow 2 52 ≤ q) : x.significand = q := by
  have hpos : 0 < Nat.pow 2 e := Nat.two_pow_pos e
  have hexcess : excessBits x.units = e := by
    refine Nat.le_antisymm (excessBits_le ?_) ?_
    · rw [hunits]
      exact Nat.mul_lt_mul_of_pos_right hq hpos
    · rcases hlow with rfl | hlow
      · exact Nat.zero_le _
      · refine le_excessBits ?_
        rw [hunits]
        exact Nat.mul_le_mul_right _ hlow
  rw [significand, hexcess, hunits, Nat.mul_div_cancel q hpos]

/-- A magnitude is a multiple of the last digit that is kept of a quotient, or it is below a
multiple that is at most the quotient. -/
theorem multiple_or_lt (num : ℕ) (hden : 0 < den) (y : Magnitude) :
    (∃ k, y.units = k * Nat.pow 2 (excessBits (num / den))) ∨
      (y.units < Nat.pow 2 52 * Nat.pow 2 (excessBits (num / den)) ∧
        Nat.pow 2 52 * Nat.pow 2 (excessBits (num / den)) * den ≤ num) := by
  by_cases h : excessBits (num / den) ≤ excessBits y.units
  · left
    obtain ⟨k, hk⟩ := Nat.dvd_trans (Nat.pow_dvd_pow 2 h) y.dvd_units
    exact ⟨k, hk.trans (Nat.mul_comm _ k)⟩
  · right
    refine ⟨Nat.lt_of_not_le fun hle => h (le_excessBits hle), ?_⟩
    exact (Nat.le_div_iff_mul_le hden).mp (le_of_excessBits_pos (by omega))

theorem rounded_mul (num den : ℕ) : rounded num den * den
    = roundHalfEven num (den * Nat.pow 2 (excessBits (num / den)))
      * (den * Nat.pow 2 (excessBits (num / den))) := by
  unfold rounded
  ac_rfl

/-- A magnitude below the last digit that is kept is farther off than what is rounded. -/
theorem dist_rounded_lt (hden : 0 < den)
    (hlt : y.units < Nat.pow 2 52 * Nat.pow 2 (excessBits (num / den)))
    (hle : Nat.pow 2 52 * Nat.pow 2 (excessBits (num / den)) * den ≤ num) :
    num.dist (rounded num den * den) < num.dist (y.units * den) := by
  have hstep : 0 < den * Nat.pow 2 (excessBits (num / den)) := Nat.mul_pos hden (Nat.two_pow_pos _)
  have hclosest := dist_roundHalfEven_le num hstep (Nat.pow 2 52)
  rw [← rounded_mul, Nat.mul_comm den, ← Nat.mul_assoc] at hclosest
  have hbelow := Nat.mul_lt_mul_of_pos_right hlt hden
  refine Nat.lt_of_le_of_lt hclosest ?_
  unfold Nat.dist
  omega

/-- No magnitude is closer than what is rounded. -/
theorem dist_rounded_le (hden : 0 < den) (y : Magnitude) :
    num.dist (rounded num den * den) ≤ num.dist (y.units * den) := by
  rcases multiple_or_lt num hden y with ⟨k, hk⟩ | ⟨hlt, hle⟩
  · have hstep : 0 < den * Nat.pow 2 (excessBits (num / den)) :=
      Nat.mul_pos hden (Nat.two_pow_pos _)
    rw [rounded_mul, hk, Nat.mul_assoc, Nat.mul_comm _ den]
    exact dist_roundHalfEven_le num hstep k
  · exact Nat.le_of_lt (dist_rounded_lt hden hlt hle)

/-- Where another magnitude is as close, what is rounded has an even significand. -/
theorem significand_mod_two (hden : 0 < den) (hx : x.units = rounded num den) (hne : y ≠ x)
    (heq : num.dist (y.units * den) = num.dist (x.units * den)) : x.significand % 2 = 0 := by
  have hstep : 0 < den * Nat.pow 2 (excessBits (num / den)) := Nat.mul_pos hden (Nat.two_pow_pos _)
  rw [hx] at heq
  rcases multiple_or_lt num hden y with ⟨k, hk⟩ | ⟨hlt, hle⟩
  · have heven : roundHalfEven num (den * Nat.pow 2 (excessBits (num / den))) % 2 = 0 := by
      refine roundHalfEven_mod_two num hstep (k := k) ?_ ?_
      · rintro rfl
        exact hne (eq_of_units (hk.trans hx.symm))
      · rw [← rounded_mul, ← heq, hk, Nat.mul_assoc, Nat.mul_comm _ den]
    have hround := rounded_le num den
    have hlow : excessBits (num / den) = 0 ∨ Nat.pow 2 52
        ≤ roundHalfEven num (den * Nat.pow 2 (excessBits (num / den))) := by
      rcases Nat.eq_zero_or_pos (excessBits (num / den)) with hzero | hpos
      · exact Or.inl hzero
      · exact Or.inr (Nat.le_of_mul_le_mul_right (pow_le_rounded hpos) (Nat.two_pow_pos _))
    unfold rounded at hx
    generalize roundHalfEven num (den * Nat.pow 2 (excessBits (num / den))) = q
      at hx heven hround hlow
    rcases Nat.lt_or_eq_of_le hround with hlt | rfl
    · rwa [significand_eq hx hlt hlow]
    · -- the digits are carried over, and the significand is the least
      have hcarry : x.units = Nat.pow 2 52 * Nat.pow 2 (excessBits (num / den) + 1) := by
        have hhalf : Nat.pow 2 53 = Nat.pow 2 52 * 2 := rfl
        have hnext : Nat.pow 2 (excessBits (num / den) + 1)
            = Nat.pow 2 (excessBits (num / den)) * 2 := rfl
        rw [hx, hhalf, hnext]
        ac_rfl
      rw [significand_eq hcarry (by decide) (Or.inr (Nat.le_refl _))]
  · have hfar := dist_rounded_lt hden hlt hle
    omega

end Magnitude
end OfferRules

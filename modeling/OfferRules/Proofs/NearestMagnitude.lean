import Mathlib.Algebra.Order.Field.Rat
import Mathlib.Tactic.FieldSimp
import Mathlib.Tactic.Linarith
import Mathlib.Tactic.NormNum
import Mathlib.Tactic.Positivity
import Mathlib.Tactic.Ring
import OfferRules.Proofs.RoundingError

/-!
# What rounding means

A number is rounded to a magnitude that no other is closer to, to the one with an even significand
where two are equally close, and out of range from the middle between the greatest magnitude and
`2 ^ 1024` on.  These rules fix one magnitude, or none.

## Main definitions

* `Magnitude.value` — the number that a magnitude is.
* `Magnitude.IsNearest` — the rules.
* `Double.Rounds` — the same for doubles with a sign, with an infinity out of range.

## Main results

* `Magnitude.isNearest_of_close` — what is closer to a magnitude than one part in `2 ^ 54` is
  rounded to it.
* `Magnitude.IsNearest.unique` — **the rules fix a magnitude.**
* `Magnitude.nearest?_eq_some_iff`, `Magnitude.nearest?_eq_none_iff` — **rounding follows the
  rules.**
-/

namespace OfferRules

attribute [local irreducible] Magnitude.bound Magnitude.perOne Double.wholeBound

namespace Magnitude

variable {x y : Magnitude} {num den : ℕ}

/-! ### The numbers that magnitudes are -/

/-- The number that a magnitude is. -/
def value (x : Magnitude) : ℚ := x.units / perOne

theorem perOne_cast_pos : (0 : ℚ) < perOne := Nat.cast_pos.mpr perOne_pos

theorem value_mul (x : Magnitude) : x.value * perOne = x.units :=
  div_mul_cancel₀ _ (ne_of_gt perOne_cast_pos)

theorem cast_dist (m n : ℕ) : (m.dist n : ℚ) = |(m : ℚ) - n| := by
  rcases Nat.le_total m n with h | h
  · rw [Nat.dist_eq_sub_of_le h, Nat.cast_sub h, abs_sub_comm,
      abs_of_nonneg (sub_nonneg.mpr (Nat.cast_le.mpr h))]
  · rw [Nat.dist_eq_sub_of_le_right h, Nat.cast_sub h,
      abs_of_nonneg (sub_nonneg.mpr (Nat.cast_le.mpr h))]

/-- How far a magnitude is from a number, in units. -/
theorem abs_sub_value (hden : 0 < den) (y : Magnitude) :
    |(num / den / perOne : ℚ) - y.value| * (den * perOne) = num.dist (y.units * den) := by
  have hone := perOne_cast_pos
  have hpos : (0 : ℚ) < den := Nat.cast_pos.mpr hden
  rw [cast_dist, ← abs_of_pos (mul_pos hpos hone), ← abs_mul, value]
  congr 1
  push_cast
  field_simp

/-! ### The rules of rounding -/

/-- A magnitude is what a number is rounded to: the number is below the middle between the greatest
magnitude and `2 ^ 1024`, no magnitude is closer, and where another one is as close the significand
is even. -/
structure IsNearest (q : ℚ) (x : Magnitude) : Prop where
  /-- The number is not out of range. -/
  inRange : q < Double.wholeBound
  /-- No magnitude is closer. -/
  closest : ∀ y : Magnitude, |q - x.value| ≤ |q - y.value|
  /-- Of two that are equally close, the one with an even significand is chosen. -/
  even_of_tie : ∀ y : Magnitude, y ≠ x → |q - y.value| = |q - x.value| → x.significand % 2 = 0

/-- The next magnitude is one of its last digit above. -/
theorem units_add_le (h : x.units < y.units) :
    x.units + Nat.pow 2 (excessBits x.units) ≤ y.units := by
  obtain ⟨k, hk⟩ : Nat.pow 2 (excessBits x.units) ∣ y.units :=
    Nat.dvd_trans (Nat.pow_dvd_pow 2 (excessBits_mono (Nat.le_of_lt h))) y.dvd_units
  have hx := x.significand_mul
  have hpos : 0 < Nat.pow 2 (excessBits x.units) := Nat.two_pow_pos _
  generalize Nat.pow 2 (excessBits x.units) = E at hk hx hpos ⊢
  have hlt : x.significand < k := by
    rw [← hx, hk, Nat.mul_comm E] at h
    exact Nat.lt_of_mul_lt_mul_right h
  rw [← hx, hk, ← Nat.succ_mul, Nat.mul_comm E]
  exact Nat.mul_le_mul_right E hlt

/-- Two magnitudes are apart by one part in `2 ^ 53` of either. -/
theorem units_le_dist (hne : y ≠ x) : x.units ≤ Nat.pow 2 53 * x.units.dist y.units := by
  have hbelow : ∀ {u v : Magnitude}, u.units < v.units →
      u.units ≤ (Nat.pow 2 53 - 1) * (v.units - u.units) := by
    intro u v h
    have hnext := units_add_le h
    have hu := u.significand_mul
    generalize Nat.pow 2 (excessBits u.units) = E at hnext hu
    rw [← hu]
    refine Nat.mul_le_mul (Nat.le_sub_one_of_lt u.significand_lt) ?_
    rw [hu]
    omega
  rcases Nat.lt_trichotomy x.units y.units with h | h | h
  · have hgap := hbelow h
    rw [Nat.dist_eq_sub_of_le (Nat.le_of_lt h)]
    exact Nat.le_trans hgap (Nat.mul_le_mul_right _ (Nat.sub_le _ _))
  · exact absurd (eq_of_units h).symm hne
  · have hgap := hbelow h
    rw [Nat.dist_eq_sub_of_le_right (Nat.le_of_lt h)]
    have hconst : Nat.pow 2 53 - 1 = 9007199254740991 := by decide
    have hconst' : Nat.pow 2 53 = 9007199254740992 := by decide
    rw [hconst] at hgap
    rw [hconst']
    omega

/-- The numbers that are out of range, in units. -/
theorem wholeBound_mul : (Double.wholeBound * perOne : ℚ) * 2 ^ 54 = (2 ^ 54 - 1) * bound := by
  obtain ⟨l, hl, hone⟩ := exists_perOne
  obtain ⟨b, hb, hbound⟩ := exists_bound
  obtain ⟨k, hk, hwhole⟩ : ∃ k, k = 970 ∧ Double.wholeBound = (Nat.pow 2 54 - 1) * Nat.pow 2 k := by
    refine ⟨970, rfl, ?_⟩
    rw [Double.wholeBound]
  have hpow : ∀ n, Nat.pow 2 n = 2 ^ n := fun _ => rfl
  have hconst : ((Nat.pow 2 54 - 1 : ℕ) : ℚ) = 2 ^ 54 - 1 := by
    rw [hpow]
    norm_num
  have hexponents : b = k + l + 54 := by omega
  rw [hwhole, hone, hbound, hexponents, Nat.cast_mul, hconst, hpow, hpow, hpow]
  push_cast
  ring

/-- A magnitude is below `2 ^ 1024` by at least one part in `2 ^ 53`. -/
theorem value_mul_le (x : Magnitude) : x.value * perOne * 2 ^ 53 ≤ (2 ^ 53 - 1) * bound := by
  obtain ⟨b, hb, hbound⟩ := exists_bound
  obtain ⟨k, hk⟩ : ∃ k, bound = Nat.pow 2 k * Nat.pow 2 53 :=
    ⟨b - 53, hbound.trans (by rw [show b = b - 53 + 53 by omega]; exact Nat.pow_add 2 (b - 53) 53)⟩
  have hlt := x.units_lt
  rw [hk] at hlt
  have hle := x.units_mul_le_pow hlt
  rw [← hk] at hle
  have hpow : Nat.pow 2 53 = 2 ^ 53 := rfl
  have hcast : (x.units : ℚ) * 2 ^ 53 ≤ ((2 ^ 53 - 1 : ℕ) : ℚ) * bound := by
    rw [hpow] at hle
    exact_mod_cast hle
  rw [value_mul]
  refine hcast.trans_eq ?_
  norm_num

/-- What is closer to a magnitude than one part in `2 ^ 54` is rounded to it. -/
theorem isNearest_of_close {q : ℚ} (h : |q - x.value| * 2 ^ 54 < x.value) : x.IsNearest q := by
  have hone := perOne_cast_pos
  have hapart : ∀ y : Magnitude, y ≠ x → |q - x.value| < |q - y.value| := by
    intro y hne
    have hgap : x.value ≤ 2 ^ 53 * |x.value - y.value| := by
      have hunits : (x.units : ℚ) ≤ 2 ^ 53 * |(x.units : ℚ) - y.units| := by
        rw [← cast_dist]
        exact_mod_cast units_le_dist hne
      rw [← x.value_mul, ← y.value_mul, ← sub_mul, abs_mul, abs_of_pos hone, ← mul_assoc] at hunits
      exact le_of_mul_le_mul_right hunits hone
    have htriangle : |x.value - y.value| ≤ |q - x.value| + |q - y.value| := by
      rw [abs_sub_comm q x.value]
      exact abs_sub_le x.value q y.value
    linarith
  refine ⟨?_, ?_, ?_⟩
  · have hle := x.value_mul_le
    have hbound := wholeBound_mul
    have habove := (le_abs_self (q - x.value))
    have hpos : (0 : ℚ) < bound := Nat.cast_pos.mpr bound_pos
    refine lt_of_mul_lt_mul_right ?_ (le_of_lt hone)
    have hmul : q * 2 ^ 54 * perOne ≤ x.value * (2 ^ 54 + 1) * perOne :=
      mul_le_mul_of_nonneg_right (by linarith) (le_of_lt hone)
    linarith
  · intro y
    by_cases hne : y = x
    · rw [hne]
    · exact le_of_lt (hapart y hne)
  · intro y hne htie
    exact absurd htie (ne_of_gt (hapart y hne))

/-- The magnitude one digit above, if a greater one is there. -/
theorem exists_next (h : x.units < y.units) :
    ∃ z : Magnitude, z.units = (x.significand + 1) * Nat.pow 2 (excessBits x.units) ∧
      x.units < z.units ∧ z.units ≤ y.units := by
  have hle := units_add_le h
  have hx := x.significand_mul
  have hpos : 0 < Nat.pow 2 (excessBits x.units) := Nat.two_pow_pos _
  have hunits : (x.significand + 1) * Nat.pow 2 (excessBits x.units)
      = x.units + Nat.pow 2 (excessBits x.units) := by rw [Nat.succ_mul, hx]
  refine ⟨⟨_, onGrid_of_le x.significand_lt, ?_⟩, rfl, ?_, ?_⟩
  · rw [hunits]
    exact Nat.lt_of_le_of_lt hle y.units_lt
  · show x.units < (x.significand + 1) * _
    omega
  · show (x.significand + 1) * _ ≤ y.units
    omega

/-- Neighbours do not both have an even significand. -/
theorem significand_add_one (h : y.units = (x.significand + 1) * Nat.pow 2 (excessBits x.units))
    (heven : x.significand % 2 = 0) : y.significand % 2 = 1 := by
  have hlt : x.significand + 1 < Nat.pow 2 53 := by
    have hconst : Nat.pow 2 53 = 9007199254740992 := by decide
    have hx := x.significand_lt
    omega
  have hlow : excessBits x.units = 0 ∨ Nat.pow 2 52 ≤ x.significand + 1 := by
    rcases Nat.eq_zero_or_pos (excessBits x.units) with hzero | hpos
    · exact Or.inl hzero
    · have hsig : Nat.pow 2 52 ≤ x.significand :=
        (Nat.le_div_iff_mul_le (Nat.two_pow_pos _)).mpr (le_of_excessBits_pos hpos)
      exact Or.inr (Nat.le_succ_of_le hsig)
  rw [significand_eq h hlt hlow]
  omega

theorem value_lt (h : x.units < y.units) : x.value < y.value :=
  div_lt_div_of_pos_right (Nat.cast_lt.mpr h) perOne_cast_pos

theorem IsNearest.not_lt {q : ℚ} (hx : x.IsNearest q) (hy : y.IsNearest q) :
    ¬ x.units < y.units := by
  intro h
  have hlt := value_lt h
  have hne : x ≠ y := by
    rintro rfl
    exact Nat.lt_irrefl _ h
  have htie : |q - y.value| = |q - x.value| := le_antisymm (hy.closest x) (hx.closest y)
  -- the number is in the middle of the two
  have hmiddle : 2 * q = x.value + y.value := by
    rcases abs_eq_abs.mp htie with heq | heq <;> linarith
  obtain ⟨z, hz, hxz, hzy⟩ := exists_next h
  have heven := hx.even_of_tie y hne.symm htie
  rcases Nat.lt_or_eq_of_le hzy with hlt' | heq
  · -- a magnitude between them would be closer
    have hbelow := value_lt hxz
    have habove := value_lt hlt'
    have hcloser := hx.closest z
    rw [abs_of_nonneg (by linarith : (0 : ℚ) ≤ q - x.value)] at hcloser
    rcases abs_cases (q - z.value) with ⟨habs, -⟩ | ⟨habs, -⟩ <;> linarith
  · have hodd := significand_add_one (heq ▸ hz) heven
    have heven' := hy.even_of_tie x hne htie.symm
    omega

/-- **The rules fix a magnitude.** -/
theorem IsNearest.unique {q : ℚ} (hx : x.IsNearest q) (hy : y.IsNearest q) : x = y :=
  eq_of_units (Nat.le_antisymm (Nat.le_of_not_lt (hy.not_lt hx)) (Nat.le_of_not_lt (hx.not_lt hy)))

/-- **Rounding follows the rules**: a quotient is out of range from the middle below `2 ^ 1024`
on. -/
theorem nearest?_eq_none_iff (num : ℕ) (hden : 0 < den) :
    nearest? num den = none ↔ (Double.wholeBound : ℚ) ≤ num / den / perOne := by
  have hone := perOne_cast_pos
  have hpos : (0 : ℚ) < den := Nat.cast_pos.mpr hden
  obtain ⟨l, hl, hunits⟩ := exists_perOne
  obtain ⟨b, hb, hbound⟩ := exists_bound
  obtain ⟨k, hk, hwhole⟩ : ∃ k, k = 970 ∧ Double.wholeBound = (Nat.pow 2 54 - 1) * Nat.pow 2 k := by
    refine ⟨970, rfl, ?_⟩
    rw [Double.wholeBound]
  have hpow : Nat.pow 2 (k + l) = Nat.pow 2 k * Nat.pow 2 l := Nat.pow_add 2 k l
  rw [nearest?_eq_none hden hbound (k := k + l) (by omega), hpow, ← Nat.mul_assoc, ← hwhole,
    ← hunits, le_div_iff₀ hone, le_div_iff₀ hpos]
  exact_mod_cast Iff.rfl

/-- **Rounding follows the rules**: a quotient that is not out of range is rounded to the magnitude
that they fix. -/
theorem nearest?_eq_some_iff (num : ℕ) (hden : 0 < den) :
    nearest? num den = some x ↔ x.IsNearest (num / den / perOne) := by
  have hone := perOne_cast_pos
  have hpos : (0 : ℚ) < den * perOne := mul_pos (Nat.cast_pos.mpr hden) hone
  have hsound : ∀ {z : Magnitude}, nearest? num den = some z →
      z.IsNearest (num / den / perOne) := by
    intro z hz
    have hunits := units_of_nearest? hz
    refine ⟨?_, fun y => ?_, fun y hne htie => ?_⟩
    · refine lt_of_not_ge fun hle => ?_
      rw [(nearest?_eq_none_iff num hden).mpr hle] at hz
      cases hz
    · refine le_of_mul_le_mul_right ?_ hpos
      rw [abs_sub_value hden, abs_sub_value hden, hunits]
      exact_mod_cast dist_rounded_le hden y
    · refine significand_mod_two hden hunits hne ?_
      have hmul := congrArg (· * ((den : ℚ) * perOne)) htie
      rw [abs_sub_value hden, abs_sub_value hden] at hmul
      exact_mod_cast hmul
  refine ⟨hsound, fun hx => ?_⟩
  cases hz : nearest? num den with
  | none => exact absurd ((nearest?_eq_none_iff num hden).mp hz) (not_le_of_gt hx.inRange)
  | some z => rw [hx.unique (hsound hz)]

/-- A quotient is rounded by the rules. -/
theorem nearest?_spec (num : ℕ) (hden : 0 < den) :
    (∃ x, nearest? num den = some x ∧ x.IsNearest (num / den / perOne)) ∨
      (nearest? num den = none ∧ (Double.wholeBound : ℚ) ≤ num / den / perOne) := by
  cases h : nearest? num den with
  | none => exact Or.inr ⟨rfl, (nearest?_eq_none_iff num hden).mp h⟩
  | some x => exact Or.inl ⟨x, rfl, (nearest?_eq_some_iff num hden).mp h⟩

end Magnitude

/-! ### Doubles -/

namespace Double

/-- What a number with a sign is rounded to, the number given without the sign: the nearest
magnitude, or an infinity where it is out of range. -/
def Rounds (negative : Bool) (q : ℚ) : Double → Prop
  | nan => False
  | infinite sign => sign = negative ∧ (wholeBound : ℚ) ≤ q
  | finite sign x => sign = negative ∧ x.IsNearest q

theorem Rounds.unique {negative : Bool} {q : ℚ} {a b : Double} (ha : a.Rounds negative q)
    (hb : b.Rounds negative q) : a = b := by
  cases a with
  | nan => exact absurd ha id
  | infinite s =>
    obtain ⟨rfl, hle⟩ := ha
    cases b with
    | nan => exact absurd hb id
    | infinite t => rw [hb.1]
    | finite t y => exact absurd hle (not_le_of_gt hb.2.inRange)
  | finite s x =>
    obtain ⟨rfl, hx⟩ := ha
    cases b with
    | nan => exact absurd hb id
    | infinite t => exact absurd hb.2 (not_le_of_gt hx.inRange)
    | finite t y => rw [hb.1, hx.unique hb.2]

end Double
end OfferRules

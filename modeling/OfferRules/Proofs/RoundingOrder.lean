import OfferRules.Proofs.DoublePlace

/-!
# Rounding and the order

Rounding respects the order.  It need not keep a strict order: what is less than a magnitude by one
part in `2 ^ 53` may be rounded up to it.  That happens for magnitudes up to `2 ^ 52` units, whose
neighbours are one unit apart, and for no others.

## Main results

* `Magnitude.rounded_mono` — **rounding respects the order.**
* `Magnitude.le_of_le_rounded`, `Magnitude.le_rounded_of_le` — which magnitudes are reached by
  rounding from one part in `2 ^ 53` below.
-/

namespace OfferRules

attribute [local irreducible] Magnitude.bound Magnitude.perOne

/-! ### Rounding a quotient -/

theorem roundHalfEven_mono {num num' den : Nat} (hden : 0 < den) (h : num ≤ num') :
    roundHalfEven num den ≤ roundHalfEven num' den := by
  rw [le_roundHalfEven_iff_or hden]
  rcases (le_roundHalfEven_iff_or hden).mp (Nat.le_refl (roundHalfEven num den)) with hlt | ⟨heq, -⟩
  · omega
  · -- in the middle, a greater numerator is beyond it, and an equal one is the same
    rcases Nat.eq_or_lt_of_le h with rfl | hgt
    · exact (le_roundHalfEven_iff_or hden).mp (Nat.le_refl _)
    · omega

/-- The middle below a number, and one part in `2 * half` less than the number. -/
theorem mul_middle (q den half : Nat) :
    (2 * q - 1) * den * half = 2 * (half * (q * den)) - half * den ∧
      (2 * half - 1) * (q * den) = 2 * (half * (q * den)) - q * den := by
  constructor
  · rw [Nat.sub_mul, Nat.sub_mul, Nat.one_mul, Nat.mul_comm den half]
    congr 1
    ac_rfl
  · rw [Nat.sub_mul, Nat.one_mul, Nat.mul_assoc]

/-- A number that is reached by rounding from one part in `2 * half` below it, or more, is at most
`half`. -/
theorem le_of_le_roundHalfEven {num den q half : Nat} (hden : 0 < den) (hhalf : 0 < half)
    (hnum : num * (2 * half) ≤ (2 * half - 1) * (q * den)) (h : q ≤ roundHalfEven num den) :
    q ≤ half := by
  obtain ⟨hmiddle, hless⟩ := mul_middle q den half
  have hreached : (2 * q - 1) * den * half ≤ 2 * num * half := by
    refine Nat.mul_le_mul_right half ?_
    rcases (le_roundHalfEven_iff_or hden).mp h with hlt | ⟨heq, -⟩
    · exact Nat.le_of_lt hlt
    · exact Nat.le_of_eq heq
  have hcomm : num * (2 * half) = 2 * num * half := by ac_rfl
  have hle : q * den ≤ half * (q * den) := Nat.le_mul_of_pos_left _ hhalf
  refine Nat.le_of_mul_le_mul_right (c := den) ?_ hden
  omega

/-- A number up to `half`, which is even, is reached by rounding from one part in `2 * half` below
it. -/
theorem le_roundHalfEven_of_le {num den q half : Nat} (hden : 0 < den) (heven : half % 2 = 0)
    (hnum : num * (2 * half) = (2 * half - 1) * (q * den)) (h : q ≤ half) :
    q ≤ roundHalfEven num den := by
  rcases Nat.eq_zero_or_pos q with rfl | hq
  · exact Nat.zero_le _
  obtain ⟨hmiddle, hless⟩ := mul_middle q den half
  have hcomm : num * (2 * half) = 2 * num * half := by ac_rfl
  have hle : den ≤ q * den := Nat.le_mul_of_pos_left den hq
  have hmul : half * den ≤ half * (q * den) := Nat.mul_le_mul_left half hle
  rw [le_roundHalfEven_iff_or hden]
  rcases Nat.eq_or_lt_of_le h with rfl | hlt
  · refine Or.inr ⟨Nat.eq_of_mul_eq_mul_right hq ?_, heven⟩
    omega
  · have hbelow : q * den < half * den := Nat.mul_lt_mul_of_pos_right hlt hden
    refine Or.inl (Nat.lt_of_mul_lt_mul_right (a := half) ?_)
    omega

theorem excessBits_mono {m n : Nat} (h : m ≤ n) : excessBits m ≤ excessBits n := by
  by_cases hm : m = 0
  · rw [hm]
    exact Nat.zero_le _
  · have hpow : Nat.pow 2 m.log2 ≤ n := Nat.le_trans (Nat.log2_self_le hm) h
    have hlog : m.log2 ≤ n.log2 := (Nat.le_log2 (by omega)).mpr hpow
    unfold excessBits
    omega

namespace Magnitude

theorem units_of_nearest? {num den : Nat} {x : Magnitude} (h : nearest? num den = some x) :
    x.units = rounded num den := by
  unfold nearest? at h
  dsimp only at h
  split at h
  · cases h
    rfl
  · cases h

theorem bound_le_rounded {num den : Nat} (h : nearest? num den = none) :
    bound ≤ rounded num den := by
  unfold nearest? at h
  dsimp only at h
  split at h
  · cases h
  · next hlarge => exact Nat.le_of_not_lt hlarge

theorem rounded_units (x : Magnitude) : rounded x.units 1 = x.units :=
  (units_of_nearest? x.nearest?_units).symm

/-- Rounding respects the order. -/
theorem rounded_mono {num num' den : Nat} (hden : 0 < den) (h : num ≤ num') :
    rounded num den ≤ rounded num' den := by
  have hexcess := excessBits_mono (Nat.div_le_div_right (c := den) h)
  rcases Nat.eq_or_lt_of_le hexcess with heq | hlt
  · unfold rounded
    rw [heq]
    exact Nat.mul_le_mul_right _ (roundHalfEven_mono
      (Nat.mul_pos hden (Nat.two_pow_pos _)) h)
  · -- the two have different numbers of digits, and a power stands between what they are rounded to
    have hbetween : Nat.pow 2 53 * Nat.pow 2 (excessBits (num / den))
        ≤ Nat.pow 2 52 * Nat.pow 2 (excessBits (num' / den)) := by
      have hhalf : Nat.pow 2 53 = Nat.pow 2 52 * 2 := rfl
      have hmono : Nat.pow 2 (excessBits (num / den)) * 2 ≤ Nat.pow 2 (excessBits (num' / den)) :=
        Nat.pow_le_pow_right (n := 2) (by decide) hlt
      rw [hhalf, Nat.mul_assoc, Nat.mul_comm 2]
      exact Nat.mul_le_mul_left _ hmono
    calc rounded num den ≤ Nat.pow 2 53 * Nat.pow 2 (excessBits (num / den)) := rounded_le_pow _ _
      _ ≤ Nat.pow 2 52 * Nat.pow 2 (excessBits (num' / den)) := hbetween
      _ ≤ rounded num' den := pow_le_rounded (Nat.zero_lt_of_lt hlt)

theorem rounded_le_units (x : Magnitude) {n : Nat} (h : n ≤ x.units) : rounded n 1 ≤ x.units := by
  have hmono := rounded_mono Nat.one_pos h
  rwa [x.rounded_units] at hmono

theorem units_le_rounded (x : Magnitude) {n : Nat} (h : x.units ≤ n) : x.units ≤ rounded n 1 := by
  have hmono := rounded_mono Nat.one_pos h
  rwa [x.rounded_units] at hmono

theorem exists_units_eq {n : Nat} (h : n < Nat.pow 2 53) : ∃ x : Magnitude, x.units = n := by
  have hlt : n < bound := by
    obtain ⟨b, hb, hbound⟩ := exists_bound
    rw [hbound]
    exact Nat.lt_of_lt_of_le h (Nat.pow_le_pow_right (by decide) (by omega))
  exact ⟨⟨n, ⟨n, 0, h, (Nat.mul_one n).symm⟩, hlt⟩, rfl⟩

theorem rounded_pos {n : Nat} (h : 0 < n) : 0 < rounded n 1 := by
  obtain ⟨x, hx⟩ := exists_units_eq (n := 1) (by decide)
  have hle := x.units_le_rounded (n := n) (by omega)
  omega

/-- What is rounded to at most `2 ^ 52` units is rounded to itself. -/
theorem rounded_eq_self {n : Nat} (h : rounded n 1 ≤ Nat.pow 2 52) : rounded n 1 = n := by
  have hn : n < Nat.pow 2 53 := by
    refine Nat.lt_of_not_le fun hle => ?_
    obtain ⟨x, hx⟩ := exists_units_eq (n := Nat.pow 2 52 + 1) (by decide)
    have hover : x.units ≤ n := by
      rw [hx]
      exact Nat.le_trans (by decide) hle
    have hrounded := x.units_le_rounded hover
    rw [hx] at hrounded
    omega
  obtain ⟨x, rfl⟩ := exists_units_eq hn
  exact x.rounded_units

/-! ### One part in `2 ^ 53` -/

/-- A magnitude that is reached by rounding from one part in `2 ^ 53` below it, or more, has at most
`2 ^ 52` units. -/
theorem le_of_le_rounded (x : Magnitude) {num den : Nat} (hden : 0 < den)
    (hnum : num * Nat.pow 2 53 ≤ (Nat.pow 2 53 - 1) * (x.units * den))
    (h : x.units ≤ rounded num den) : x.units ≤ Nat.pow 2 52 := by
  by_cases hzero : x.units = 0
  · rw [hzero]
    exact Nat.zero_le _
  have hlt : num < x.units * den := by
    have hpos : 0 < x.units * den := Nat.mul_pos (Nat.pos_of_ne_zero hzero) hden
    have hless : (Nat.pow 2 53 - 1) * (x.units * den) < x.units * den * Nat.pow 2 53 := by
      rw [Nat.mul_comm (x.units * den)]
      exact Nat.mul_lt_mul_of_pos_right (by decide) hpos
    exact Nat.lt_of_mul_lt_mul_right (Nat.lt_of_le_of_lt hnum hless)
  -- the magnitude is a multiple of the last digit that is kept
  obtain ⟨q, hq⟩ : Nat.pow 2 (excessBits (num / den)) ∣ x.units := by
    refine Nat.dvd_trans (Nat.pow_dvd_pow 2 (excessBits_mono ?_)) x.dvd_units
    exact Nat.le_of_lt ((Nat.div_lt_iff_lt_mul hden).mpr hlt)
  have hq52 : q ≤ Nat.pow 2 52 := by
    unfold rounded at h
    have hE : 0 < Nat.pow 2 (excessBits (num / den)) := Nat.two_pow_pos _
    generalize Nat.pow 2 (excessBits (num / den)) = E at hq h hE
    rw [hq, Nat.mul_comm E, Nat.mul_le_mul_right_iff hE] at h
    have hunits : x.units * den = q * (den * E) := by
      rw [hq]
      ac_rfl
    rw [hunits] at hnum
    exact le_of_le_roundHalfEven (Nat.mul_pos hden hE) (by decide) hnum h
  by_cases hexcess : excessBits (num / den) = 0
  · rw [hq, hexcess]
    show 1 * q ≤ _
    rwa [Nat.one_mul]
  · -- the quotient has as many digits as the power, and the magnitude would be no greater
    have hle := (Nat.le_div_iff_mul_le hden).mp
      (le_of_excessBits_pos (Nat.pos_of_ne_zero hexcess))
    have hmul := Nat.mul_le_mul_right den
      (Nat.mul_le_mul_left (Nat.pow 2 (excessBits (num / den))) hq52)
    rw [← hq, Nat.mul_comm _ (Nat.pow 2 52)] at hmul
    exact absurd (Nat.lt_of_le_of_lt hle hlt) (Nat.not_lt_of_le hmul)

/-- A number of at most `2 ^ 52` units is reached by rounding from one part in `2 ^ 53` below it. -/
theorem le_rounded_of_le {n num den : Nat} (hden : 0 < den)
    (hnum : num * Nat.pow 2 53 = (Nat.pow 2 53 - 1) * (n * den)) (h : n ≤ Nat.pow 2 52) :
    n ≤ rounded num den := by
  have hexcess : excessBits (num / den) = 0 := by
    have hle : num ≤ n * den := by
      have hless : (Nat.pow 2 53 - 1) * (n * den) ≤ n * den * Nat.pow 2 53 := by
        rw [Nat.mul_comm (n * den)]
        exact Nat.mul_le_mul_right _ (by decide)
      rw [← hnum] at hless
      exact Nat.le_of_mul_le_mul_right hless (by decide)
    have hquot : num / den ≤ Nat.pow 2 52 := by
      refine Nat.le_trans (Nat.div_le_div_right hle) ?_
      rwa [Nat.mul_div_cancel n hden]
    exact Nat.le_zero.mp (excessBits_mono hquot)
  have hone : Nat.pow 2 0 = 1 := rfl
  unfold rounded
  rw [hexcess, hone, Nat.mul_one, Nat.mul_one]
  exact @le_roundHalfEven_of_le _ _ _ (Nat.pow 2 52) hden (by decide) hnum h

/-! ### Below one -/

theorem exists_perOne_mul : ∃ k, perOne = Nat.pow 2 k * Nat.pow 2 53 := by
  obtain ⟨k, hk, hone⟩ := exists_perOne
  obtain ⟨j, rfl⟩ : ∃ j, k = j + 53 := ⟨1021, hk⟩
  exact ⟨j, hone.trans (Nat.pow_add 2 j 53)⟩

/-- A magnitude below a power of two is below it by at least one part in `2 ^ 53`. -/
theorem units_mul_le_pow (x : Magnitude) {k : Nat} (h : x.units < Nat.pow 2 k * Nat.pow 2 53) :
    x.units * Nat.pow 2 53 ≤ (Nat.pow 2 53 - 1) * (Nat.pow 2 k * Nat.pow 2 53) := by
  obtain ⟨m, e, hm, hunits⟩ := x.onGrid
  rw [← Nat.mul_assoc]
  refine Nat.mul_le_mul_right _ ?_
  rcases Nat.le_total e k with hle | hle
  · rw [hunits]
    exact Nat.mul_le_mul (Nat.le_sub_one_of_lt hm) (Nat.pow_le_pow_right (by decide) hle)
  · obtain ⟨q, hq⟩ : Nat.pow 2 k ∣ x.units := by
      rw [hunits]
      exact Nat.dvd_trans (Nat.pow_dvd_pow 2 hle) (Nat.dvd_mul_left _ m)
    rw [hq] at h
    rw [hq, Nat.mul_comm]
    exact Nat.mul_le_mul_right _ (Nat.le_sub_one_of_lt (Nat.lt_of_mul_lt_mul_left h))

/-- A magnitude below one is below it by at least one part in `2 ^ 53`. -/
theorem units_mul_le (x : Magnitude) (h : x.units < perOne) :
    x.units * Nat.pow 2 53 ≤ (Nat.pow 2 53 - 1) * perOne := by
  obtain ⟨k, hk⟩ := exists_perOne_mul
  rw [hk] at h ⊢
  exact x.units_mul_le_pow h

theorem perOne_lt_bound : perOne < bound := by
  obtain ⟨k, hk, hone⟩ := exists_perOne
  obtain ⟨b, hb, hbound⟩ := exists_bound
  rw [hone, hbound]
  exact Nat.pow_lt_pow_right (by decide) (by omega)

/-- The greatest magnitude below one is below it by one part in `2 ^ 53`. -/
theorem exists_belowOne :
    ∃ x : Magnitude, x.units < perOne ∧ x.units * Nat.pow 2 53 = (Nat.pow 2 53 - 1) * perOne := by
  obtain ⟨k, hk⟩ := exists_perOne_mul
  have hlt : (Nat.pow 2 53 - 1) * Nat.pow 2 k < perOne := by
    rw [hk, Nat.mul_comm]
    exact Nat.mul_lt_mul_of_pos_left (by decide) (Nat.two_pow_pos k)
  let x : Magnitude := ⟨(Nat.pow 2 53 - 1) * Nat.pow 2 k, ⟨Nat.pow 2 53 - 1, k, by decide, rfl⟩,
    Nat.lt_trans hlt perOne_lt_bound⟩
  have hx : x.units * Nat.pow 2 53 = (Nat.pow 2 53 - 1) * (Nat.pow 2 k * Nat.pow 2 53) :=
    Nat.mul_assoc _ _ _
  exact ⟨x, hlt, hx.trans (congrArg _ hk.symm)⟩

/-- The least magnitude from which on magnitudes have 53 digits. -/
def leastNormal : Magnitude where
  units := Nat.pow 2 52
  onGrid := ⟨1, 52, by decide, rfl⟩
  units_lt := by
    obtain ⟨b, hb, hbound⟩ := exists_bound
    rw [hbound]
    exact Nat.pow_lt_pow_right (by decide) (by omega)

end Magnitude
end OfferRules

import OfferRules.Number.Double

/-!
# Which whole numbers have a double

A whole number has no double exactly when it is rounded up to `2 ^ 1024` or beyond, that is, from
the middle between the greatest finite double and `2 ^ 1024` on.

## Main definitions

* `Magnitude.rounded` — how many units a quotient is rounded to.
* `Double.wholeBound` — the least whole number that has no double.

## Main results

* `le_roundHalfEven_iff_or`, `le_roundHalfEven_iff` — when rounding reaches a number, and an even
  one.
* `Magnitude.pow_le_rounded_iff` — when a quotient is rounded to a power of two or beyond.
* `Magnitude.nearest?_eq_none` — when a number of units is rounded out of range.
* `Double.ofInt?_eq_none` — **the whole numbers that have no double.**
-/

namespace OfferRules

/-- Rounding reaches a number beyond the middle below it, and in this middle if it is even. -/
theorem le_roundHalfEven_iff_or {num den q : Nat} (hden : 0 < den) :
    q ≤ roundHalfEven num den ↔
      (2 * q - 1) * den < 2 * num ∨ ((2 * q - 1) * den = 2 * num ∧ q % 2 = 0) := by
  have hsplit := Nat.div_add_mod num den
  have hlt := Nat.mod_lt num hden
  have hmiddle : (2 * q - 1) * den = 2 * (den * q) - den := by
    rw [Nat.sub_mul, Nat.one_mul, Nat.mul_assoc, Nat.mul_comm q]
  rw [hmiddle]
  rcases Nat.lt_trichotomy (num / den + 1) q with hbelow | heq | habove
  · -- both neighbours of the quotient are below
    have hround := roundHalfEven_le_succ num den
    have hmul : den * (num / den + 2) ≤ den * q := Nat.mul_le_mul_left den hbelow
    rw [Nat.mul_add] at hmul
    omega
  · -- the quotient is the other neighbour, and one of the two is even
    have hmul : den * q = den * (num / den) + den := by rw [← heq, Nat.mul_succ]
    unfold roundHalfEven
    dsimp only
    split
    · omega
    · split <;> omega
  · -- neither neighbour is below
    have hround := le_roundHalfEven num den
    have hmul : den * q ≤ den * (num / den) := Nat.mul_le_mul_left den (by omega)
    rcases Nat.eq_zero_or_pos q with rfl | hpos
    · omega
    · have hle := Nat.le_mul_of_pos_right den hpos
      omega

/-- Rounding reaches an even number from the middle below it on. -/
theorem le_roundHalfEven_iff {num den q : Nat} (hden : 0 < den) (hq : q % 2 = 0) :
    q ≤ roundHalfEven num den ↔ (2 * q - 1) * den ≤ 2 * num := by
  rw [le_roundHalfEven_iff_or hden, Nat.le_iff_lt_or_eq]
  simp only [hq, and_true]

/-- A number with excess digits has 53 digits in front of them. -/
theorem le_of_excessBits_pos {n : Nat} (h : 0 < excessBits n) :
    Nat.pow 2 52 * Nat.pow 2 (excessBits n) ≤ n := by
  have hpow : Nat.pow 2 (52 + excessBits n) = Nat.pow 2 52 * Nat.pow 2 (excessBits n) :=
    Nat.pow_add 2 52 _
  have hlog : 52 + excessBits n = n.log2 := by
    unfold excessBits at h ⊢
    omega
  rw [← hpow, hlog]
  refine Nat.log2_self_le ?_
  rintro rfl
  exact absurd h (by decide)

namespace Magnitude

-- The exponents are named, so that no step evaluates the powers.

theorem exists_perOne : ∃ k, k = 1074 ∧ perOne = Nat.pow 2 k := by
  refine ⟨1074, rfl, ?_⟩
  unfold perOne
  generalize 1074 = x
  rfl

theorem exists_bound : ∃ k, k = 2098 ∧ bound = Nat.pow 2 k := by
  refine ⟨2098, rfl, ?_⟩
  unfold bound
  generalize 2098 = x
  rfl

/-- The number of units that `num / den` units are rounded to. -/
def rounded (num den : Nat) : Nat :=
  roundHalfEven num (den * Nat.pow 2 (excessBits (num / den))) * Nat.pow 2 (excessBits (num / den))

/-- Rounding does not pass the power above. -/
theorem rounded_le_pow (num den : Nat) :
    rounded num den ≤ Nat.pow 2 53 * Nat.pow 2 (excessBits (num / den)) :=
  Nat.mul_le_mul_right _ (rounded_le num den)

/-- Rounding does not pass the power below, if a digit is dropped. -/
theorem pow_le_rounded {num den : Nat} (h : 0 < excessBits (num / den)) :
    Nat.pow 2 52 * Nat.pow 2 (excessBits (num / den)) ≤ rounded num den := by
  refine Nat.mul_le_mul_right _ ?_
  have hround := le_roundHalfEven num (den * Nat.pow 2 (excessBits (num / den)))
  rw [← Nat.div_div_eq_div_mul] at hround
  refine Nat.le_trans ?_ hround
  exact (Nat.le_div_iff_mul_le (Nat.two_pow_pos _)).mpr (le_of_excessBits_pos h)

/-- A quotient below half a power is rounded to less than the power. -/
theorem rounded_lt_of_log2_lt {num den k : Nat} (h : (num / den).log2 < k + 53) :
    rounded num den < Nat.pow 2 (k + 54) := by
  have hexcess : excessBits (num / den) ≤ k := by
    unfold excessBits
    omega
  have hpow : Nat.pow 2 (excessBits (num / den)) ≤ Nat.pow 2 k :=
    Nat.pow_le_pow_right (by decide) hexcess
  calc rounded num den ≤ Nat.pow 2 53 * Nat.pow 2 (excessBits (num / den)) := rounded_le_pow _ _
    _ ≤ Nat.pow 2 53 * Nat.pow 2 k := Nat.mul_le_mul_left _ hpow
    _ = Nat.pow 2 (53 + k) := (Nat.pow_add 2 53 k).symm
    _ < Nat.pow 2 (k + 54) := Nat.pow_lt_pow_right (by decide) (by omega)

/-- A quotient from a power on is rounded to no less than the power. -/
theorem pow_le_rounded_of_lt_log2 {num den k : Nat} (h : k + 53 < (num / den).log2) :
    Nat.pow 2 (k + 54) ≤ rounded num den := by
  have hexcess : k + 2 ≤ excessBits (num / den) := by
    unfold excessBits
    omega
  calc Nat.pow 2 (k + 54) ≤ Nat.pow 2 (52 + excessBits (num / den)) :=
        Nat.pow_le_pow_right (by decide) (by omega)
    _ = Nat.pow 2 52 * Nat.pow 2 (excessBits (num / den)) := Nat.pow_add 2 52 _
    _ ≤ rounded num den := pow_le_rounded (by omega)

/-- Of the quotients between half a power and the power, those from the middle of the last two
multiples on are rounded to the power. -/
theorem pow_le_rounded_of_log2_eq {num den k : Nat} (hden : 0 < den)
    (h : (num / den).log2 = k + 53) :
    Nat.pow 2 (k + 54) ≤ rounded num den ↔ (Nat.pow 2 54 - 1) * Nat.pow 2 k * den ≤ num := by
  have hpow : ∀ m n, Nat.pow 2 (m + n) = Nat.pow 2 m * Nat.pow 2 n := Nat.pow_add 2
  have hunit : 0 < Nat.pow 2 (k + 1) := Nat.two_pow_pos _
  have hexcess : excessBits (num / den) = k + 1 := by
    unfold excessBits
    omega
  have hsum : k + 54 = 53 + (k + 1) := by omega
  have hconst : 2 * Nat.pow 2 53 - 1 = Nat.pow 2 54 - 1 := by decide
  have hone : Nat.pow 2 1 = 2 := rfl
  have htwice : (Nat.pow 2 54 - 1) * (den * (Nat.pow 2 k * 2))
      = 2 * ((Nat.pow 2 54 - 1) * Nat.pow 2 k * den) := by ac_rfl
  -- the power is an even number of the units that are kept, so the middle itself is rounded up
  rw [rounded, hexcess, hsum, hpow 53, Nat.mul_le_mul_right_iff hunit,
    le_roundHalfEven_iff (Nat.mul_pos hden hunit) (by decide), hpow k 1, hconst, hone, htwice]
  omega

/-- The middle below a power stands between its half and the power itself. -/
theorem middle_between (k : Nat) :
    Nat.pow 2 (k + 53) ≤ (Nat.pow 2 54 - 1) * Nat.pow 2 k ∧
      (Nat.pow 2 54 - 1) * Nat.pow 2 k < Nat.pow 2 (k + 54) := by
  have hpow : ∀ n, Nat.pow 2 (k + n) = Nat.pow 2 n * Nat.pow 2 k := by
    intro n
    rw [Nat.mul_comm]
    exact Nat.pow_add 2 k n
  rw [hpow, hpow]
  exact ⟨Nat.mul_le_mul_right _ (by decide),
    Nat.mul_lt_mul_of_pos_right (by decide) (Nat.two_pow_pos k)⟩

/-- A quotient rounded to its leading 53 binary digits reaches a power of two from the middle below
it on. -/
theorem pow_le_rounded_iff (num : Nat) {den k m : Nat} (hden : 0 < den) (hm : m = k + 54) :
    Nat.pow 2 m ≤ rounded num den ↔ (Nat.pow 2 54 - 1) * Nat.pow 2 k * den ≤ num := by
  subst hm
  obtain ⟨hhalf, hpower⟩ := middle_between k
  rcases Nat.lt_trichotomy (num / den).log2 (k + 53) with hbelow | heq | habove
  · have hlt : num / den < Nat.pow 2 (k + 53) :=
      Nat.lt_of_lt_of_le Nat.lt_log2_self (Nat.pow_le_pow_right (by decide) hbelow)
    refine iff_of_false (Nat.not_le_of_lt (rounded_lt_of_log2_lt hbelow)) ?_
    rw [← Nat.le_div_iff_mul_le hden]
    omega
  · exact pow_le_rounded_of_log2_eq hden heq
  · have hle : Nat.pow 2 (k + 54) ≤ num / den :=
      (Nat.le_log2 (by rintro hzero; simp [hzero] at habove)).mp habove
    refine iff_of_true (pow_le_rounded_of_lt_log2 habove) ?_
    rw [← Nat.le_div_iff_mul_le hden]
    omega

/-- A number of units is rounded out of range from the middle below the bound on. -/
theorem nearest?_eq_none {num den k m : Nat} (hden : 0 < den) (hbound : bound = Nat.pow 2 m)
    (hm : m = k + 54) :
    nearest? num den = none ↔ (Nat.pow 2 54 - 1) * Nat.pow 2 k * den ≤ num := by
  rw [← pow_le_rounded_iff num hden hm, ← hbound]
  unfold nearest?
  dsimp only
  split
  · next h => exact iff_of_false nofun (Nat.not_le_of_lt h)
  · next h => exact iff_of_true rfl (Nat.le_of_not_lt h)

end Magnitude

namespace Double

/-- The least whole number that has no double: the middle between the greatest finite double and
`2 ^ 1024`. -/
def wholeBound : Nat := (Nat.pow 2 54 - 1) * Nat.pow 2 970

theorem ofInt?_eq_none_of_exponents {k l m : Nat} (hunits : Magnitude.perOne = Nat.pow 2 l)
    (hbound : Magnitude.bound = Nat.pow 2 m) (hm : m = k + l + 54) {n : Int} :
    ofInt? n = none ↔ (Nat.pow 2 54 - 1) * Nat.pow 2 k ≤ n.natAbs := by
  have hpow : Nat.pow 2 (k + l) = Nat.pow 2 k * Nat.pow 2 l := Nat.pow_add 2 k l
  unfold ofInt?
  rw [Option.map_eq_none_iff, Magnitude.nearest?_eq_none Nat.one_pos hbound hm, Nat.mul_one, hunits,
    hpow, ← Nat.mul_assoc]
  exact Nat.mul_le_mul_right_iff (Nat.two_pow_pos l)

/-- **The whole numbers that have no double** are those from the bound on, of either sign. -/
theorem ofInt?_eq_none {n : Int} : ofInt? n = none ↔ wholeBound ≤ n.natAbs := by
  obtain ⟨l, hl, hunits⟩ := Magnitude.exists_perOne
  obtain ⟨m, hm, hbound⟩ := Magnitude.exists_bound
  obtain ⟨k, hk, hwhole⟩ : ∃ k, k = 970 ∧ wholeBound = (Nat.pow 2 54 - 1) * Nat.pow 2 k := by
    refine ⟨970, rfl, ?_⟩
    rw [wholeBound]
  rw [hwhole]
  exact ofInt?_eq_none_of_exponents hunits hbound (by omega)

end Double
end OfferRules

import OfferRules.Number.Basic
import OfferRules.Proofs.DoubleRange

/-!
# Doubles by their places

Rounding fixes what is on the grid, so a whole number that lies where a double does is rounded to
that double.  Two doubles at one place are equal, or both are zero and differ in sign; a zero added
to a double leaves it in its place, so sums see doubles only by their places.

## Main definitions

* `Double.sum` — the sum of doubles after another, added up from the left.

## Main results

* `Magnitude.nearest?_units` — **rounding fixes what is on the grid.**
* `Double.place?_eq_iff` — which doubles are at one place.
* `Double.ofInt?_of_place?`, `Double.toInt?_of_place?` — a whole number at the place of a double is
  rounded to it, and is the whole number that it is.
* `Double.place?_of_toInt?` — a double that is a whole number is at the place of that number.
* `Double.toInt?_ofInt?` — whole numbers below `2 ^ 53` are doubles.
* `Double.place?_add_congr`, `Double.place?_sum_congr` — sums respect places.
-/

namespace OfferRules

attribute [local irreducible] Magnitude.bound Magnitude.perOne

/-! ### What is on the grid -/

/-- A multiple of the divisor is divided without rounding. -/
theorem roundHalfEven_mul (q : Nat) {den : Nat} (hden : 0 < den) :
    roundHalfEven (q * den) den = q := by
  unfold roundHalfEven
  rw [Nat.mul_mod_left, Nat.mul_div_cancel q hden]
  exact if_pos hden

namespace Magnitude

theorem perOne_pos : 0 < perOne := by
  unfold perOne
  generalize 1074 = n
  exact Nat.two_pow_pos n

theorem eq_of_units {x y : Magnitude} (h : x.units = y.units) : x = y := by
  obtain ⟨_, _, _⟩ := x
  obtain ⟨_, _, _⟩ := y
  obtain rfl : _ = _ := h
  rfl

/-- The digits of a magnitude beyond the leading 53 are zeros. -/
theorem dvd_units (x : Magnitude) : Nat.pow 2 (excessBits x.units) ∣ x.units := by
  obtain ⟨m, e, hm, hunits⟩ := x.onGrid
  by_cases hzero : x.units = 0
  · rw [hzero]
    exact Nat.dvd_zero _
  · have hlt : x.units < Nat.pow 2 (53 + e) := by
      have hpow : Nat.pow 2 (53 + e) = Nat.pow 2 53 * Nat.pow 2 e := Nat.pow_add 2 53 e
      rw [hunits, hpow]
      exact Nat.mul_lt_mul_of_pos_right hm (Nat.two_pow_pos e)
    have hlog : x.units.log2 < 53 + e := (Nat.log2_lt hzero).mpr hlt
    have hexcess : excessBits x.units ≤ e := by
      unfold excessBits
      omega
    rw [hunits] at hexcess ⊢
    exact Nat.dvd_trans (Nat.pow_dvd_pow 2 hexcess) (Nat.dvd_mul_left _ m)

/-- **Rounding fixes what is on the grid.** -/
theorem nearest?_units (x : Magnitude) : nearest? x.units 1 = some x := by
  have hround : roundHalfEven x.units (1 * Nat.pow 2 (excessBits (x.units / 1)))
      * Nat.pow 2 (excessBits (x.units / 1)) = x.units := by
    obtain ⟨q, hq⟩ := x.dvd_units
    rw [Nat.div_one, Nat.one_mul]
    generalize excessBits x.units = e at hq ⊢
    rw [hq, Nat.mul_comm (Nat.pow 2 e) q]
    exact congrArg (· * Nat.pow 2 e) (roundHalfEven_mul q (Nat.two_pow_pos e))
  unfold nearest?
  dsimp only
  split
  · exact congrArg some (eq_of_units hround)
  · next hlarge =>
    rw [hround] at hlarge
    exact absurd x.units_lt hlarge

end Magnitude

namespace Double

theorem ofUnits_units (negative : Bool) (x : Magnitude) :
    ofUnits negative x.units 1 = .finite negative x := by
  unfold ofUnits
  simp only [x.nearest?_units]

/-! ### Places -/

theorem place?_eq_none {d : Double} : d.place? = none ↔ d = .nan := by
  cases d <;> simp [place?]

theorem place?_eq_zero {d : Double} : d.place? = some (.units 0) ↔ d.isZero = true := by
  cases d with
  | nan => simp [place?, isZero]
  | infinite negative => cases negative <;> simp [place?, isZero]
  | finite negative x => cases negative <;> simp [place?, isZero]

/-- Doubles at one place are equal, or both are zero. -/
theorem place?_eq_iff {a b : Double} :
    a.place? = b.place? ↔ a = b ∨ (a.isZero = true ∧ b.isZero = true) := by
  constructor
  · intro h
    cases a with
    | nan => exact Or.inl (place?_eq_none.mp h.symm).symm
    | infinite s =>
      cases b with
      | nan => exact nomatch h
      | infinite t => cases s <;> cases t <;> simp_all [place?]
      | finite t y => cases s <;> simp [place?] at h
    | finite s x =>
      cases b with
      | nan => exact nomatch h
      | infinite t => cases t <;> simp [place?] at h
      | finite t y =>
        -- the signs can only differ if there is nothing to sign
        have hunits : (if s then -(x.units : Int) else x.units)
            = if t then -(y.units : Int) else y.units := by
          simpa [place?] using h
        by_cases hzero : x.units = 0
        · refine Or.inr ?_
          simp only [isZero, beq_iff_eq]
          cases s <;> cases t <;> simp at hunits <;> omega
        · refine Or.inl ?_
          cases s <;> cases t <;> simp at hunits
          · obtain rfl := Magnitude.eq_of_units (by omega : x.units = y.units)
            rfl
          · omega
          · omega
          · obtain rfl := Magnitude.eq_of_units (by omega : x.units = y.units)
            rfl
  · rintro (rfl | ⟨ha, hb⟩)
    · rfl
    · rw [place?_eq_zero.mpr ha, place?_eq_zero.mpr hb]

theorem isFinite_of_place? {a b : Double} (h : a.place? = b.place?) :
    a.isFinite = b.isFinite := by
  rcases place?_eq_iff.mp h with rfl | ⟨ha, hb⟩
  · rfl
  · cases a <;> cases b <;> simp_all [isZero, isFinite]

/-! ### Whole numbers -/

/-- Signed units that make up a multiple of one. -/
theorem units_of_multiple {n : Int} {one units : Nat} {s : Bool} (hone : 0 < one)
    (h : n * one = if s then -(units : Int) else units) :
    units = n.natAbs * one ∧ (if s then -(n.natAbs : Int) else n.natAbs) = n := by
  have hunits : units = n.natAbs * one := by
    have habs := congrArg Int.natAbs h
    rw [Int.natAbs_mul, Int.natAbs_natCast] at habs
    rw [habs]
    cases s <;> simp
  refine ⟨hunits, (Int.eq_of_mul_eq_mul_right (by omega : (one : Int) ≠ 0) ?_).symm⟩
  rw [hunits, Int.natCast_mul] at h
  cases s with
  | false => exact h
  | true =>
    rw [if_pos rfl, Int.neg_mul]
    exact h

/-- A double in the place of a whole number has as many units as the number has, and its sign where
that matters. -/
theorem exists_of_place? {n : Int} {d : Double} (h : (Number.int n).place? = d.place?) :
    ∃ s x, d = .finite s x ∧ x.units = n.natAbs * Magnitude.perOne ∧
      (if s then -(n.natAbs : Int) else n.natAbs) = n := by
  cases d with
  | nan => exact nomatch h
  | infinite s => cases s <;> exact nomatch h
  | finite s x =>
    exact ⟨s, x, rfl, units_of_multiple Magnitude.perOne_pos
      (Place.units.inj (Option.some.inj h))⟩

/-- A whole number at the place of a double is rounded to a double at that place. -/
theorem ofInt?_of_place? {n : Int} {d : Double} (h : (Number.int n).place? = d.place?) :
    ∃ d', ofInt? n = some d' ∧ d'.place? = d.place? := by
  obtain ⟨s, x, rfl, hunits, hsign⟩ := exists_of_place? h
  refine ⟨.finite (decide (n < 0)) x, ?_, ?_⟩
  · rw [ofInt?, ← hunits, x.nearest?_units, Option.map_some]
  · rw [place?_eq_iff]
    by_cases hzero : n = 0
    · refine Or.inr ⟨?_, ?_⟩ <;> simp [isZero, hunits, hzero]
    · refine Or.inl ?_
      cases s with
      | false =>
        have hneg : ¬ n < 0 := by
          rw [if_neg Bool.false_ne_true] at hsign
          omega
        rw [decide_eq_false hneg]
      | true =>
        have hneg : n < 0 := by
          rw [if_pos rfl] at hsign
          omega
        rw [decide_eq_true hneg]

/-- A double in the place of a whole number is that number. -/
theorem toInt?_of_place? {n : Int} {d : Double} (h : (Number.int n).place? = d.place?) :
    d.toInt? = some n := by
  obtain ⟨s, x, rfl, hunits, hsign⟩ := exists_of_place? h
  have hmod : x.units % Magnitude.perOne = 0 := by
    rw [hunits]
    exact Nat.mul_mod_left _ _
  have hdiv : x.units / Magnitude.perOne = n.natAbs := by
    rw [hunits]
    exact Nat.mul_div_cancel _ Magnitude.perOne_pos
  unfold toInt?
  dsimp only
  rw [if_pos hmod, hdiv, hsign]

/-- A double that is a whole number is at the place of that number. -/
theorem place?_of_toInt? {d : Double} {n : Int} (h : d.toInt? = some n) :
    d.place? = (Number.int n).place? := by
  cases d with
  | nan => exact nomatch h
  | infinite s => exact nomatch h
  | finite s x =>
    unfold toInt? at h
    dsimp only at h
    split at h
    · next hmod =>
      have hunits : x.units = x.units / Magnitude.perOne * Magnitude.perOne :=
        (Nat.div_mul_cancel (Nat.dvd_of_mod_eq_zero hmod)).symm
      generalize x.units / Magnitude.perOne = m at h hunits
      obtain rfl := Option.some.inj h
      show some (Place.units (if s then -(x.units : Int) else x.units))
        = some (Place.units ((if s then -(m : Int) else m) * Magnitude.perOne))
      rw [hunits, Int.natCast_mul]
      cases s with
      | false => rw [if_neg Bool.false_ne_true, if_neg Bool.false_ne_true]
      | true => rw [if_pos rfl, if_pos rfl, Int.neg_mul]
    · exact nomatch h

/-- A whole number below `2 ^ 53` is a double. -/
theorem exists_place?_eq {n : Nat} (h : n < Nat.pow 2 53) :
    ∃ d : Double, (Number.int n).place? = d.place? := by
  obtain ⟨k, hk, hone⟩ := Magnitude.exists_perOne
  obtain ⟨b, hb, hbound⟩ := Magnitude.exists_bound
  have hlt : n * Magnitude.perOne < Magnitude.bound := by
    have hpow : Nat.pow 2 (53 + k) = Nat.pow 2 53 * Nat.pow 2 k := Nat.pow_add 2 53 k
    have hmono : Nat.pow 2 (53 + k) ≤ Nat.pow 2 b := Nat.pow_le_pow_right (by decide) (by omega)
    rw [hpow] at hmono
    rw [hone, hbound]
    exact Nat.lt_of_lt_of_le (Nat.mul_lt_mul_of_pos_right h (Nat.two_pow_pos k)) hmono
  let x : Magnitude := ⟨n * Magnitude.perOne, ⟨n, k, h, by rw [hone]⟩, hlt⟩
  refine ⟨.finite false x, ?_⟩
  show some (Place.units (n * Magnitude.perOne : Int)) = some (Place.units (x.units : Int))
  rw [Int.natCast_mul]

/-- The double nearest to a whole number below `2 ^ 53` is this number. -/
theorem toInt?_ofInt? {n : Nat} (h : n < Nat.pow 2 53) :
    ∃ d, ofInt? n = some d ∧ d.toInt? = some (n : Int) := by
  obtain ⟨d, hd⟩ := exists_place?_eq h
  obtain ⟨d', hd', hplace⟩ := ofInt?_of_place? hd
  exact ⟨d', hd', toInt?_of_place? (hd.trans hplace.symm)⟩

/-! ### Sums -/

theorem add_def (a b : Double) : a + b = add a b := rfl

/-- A zero added in front leaves a double in its place. -/
theorem place?_zero_add {a : Double} (ha : a.isZero = true) (b : Double) :
    (a + b).place? = b.place? := by
  rw [add_def]
  cases a with
  | nan => exact nomatch ha
  | infinite s => exact nomatch ha
  | finite s x =>
    have hx : x.units = 0 := by simpa [isZero] using ha
    cases b with
    | nan => rfl
    | infinite t => rfl
    | finite t y =>
      unfold add
      dsimp only
      rw [hx, Nat.zero_add, Nat.sub_zero, ofUnits_units, ofUnits_units]
      by_cases hsign : s = t
      · rw [if_pos hsign, hsign]
      · rw [if_neg hsign]
        by_cases hzero : 0 = y.units
        · rw [if_pos hzero]
          cases t <;> simp [place?, zero, Magnitude.zero, ← hzero]
        · rw [if_neg hzero, if_pos (Nat.pos_of_ne_zero (Ne.symm hzero))]

/-- A zero added behind leaves a double in its place. -/
theorem place?_add_zero (a : Double) {b : Double} (hb : b.isZero = true) :
    (a + b).place? = a.place? := by
  rw [add_def]
  cases b with
  | nan => exact nomatch hb
  | infinite t => exact nomatch hb
  | finite t y =>
    have hy : y.units = 0 := by simpa [isZero] using hb
    cases a with
    | nan => rfl
    | infinite s => rfl
    | finite s x =>
      unfold add
      dsimp only
      rw [hy, Nat.add_zero, Nat.sub_zero, ofUnits_units]
      by_cases hsign : s = t
      · rw [if_pos hsign]
      · rw [if_neg hsign]
        by_cases hzero : x.units = 0
        · rw [if_pos hzero]
          cases s <;> simp [place?, zero, Magnitude.zero, hzero]
        · rw [if_neg hzero, if_neg (Nat.not_lt_zero _)]

/-- Sums see their first part only by its place. -/
theorem place?_add_congr {a a' : Double} (h : a.place? = a'.place?) (b : Double) :
    (a + b).place? = (a' + b).place? := by
  rcases place?_eq_iff.mp h with rfl | ⟨ha, ha'⟩
  · rfl
  · rw [place?_zero_add ha, place?_zero_add ha']

/-- The sum of doubles after another, added up from the left. -/
def sum (first : Double) (rest : List Double) : Double := rest.foldl (· + ·) first

@[simp] theorem sum_nil (first : Double) : sum first [] = first := rfl

@[simp] theorem sum_cons (first d : Double) (rest : List Double) :
    sum first (d :: rest) = sum (first + d) rest := rfl

theorem place?_sum_congr {a a' : Double} (h : a.place? = a'.place?) (rest : List Double) :
    (sum a rest).place? = (sum a' rest).place? := by
  induction rest generalizing a a' with
  | nil => exact h
  | cons d rest ih => exact ih (place?_add_congr h d)

/-- Sums that leave the finite doubles do not come back. -/
theorem isFinite_of_add {a b : Double} (h : (a + b).isFinite = true) :
    a.isFinite = true ∧ b.isFinite = true := by
  rw [add_def] at h
  cases a with
  | nan => exact nomatch h
  | infinite s =>
    cases b with
    | nan => exact nomatch h
    | infinite t =>
      unfold add at h
      dsimp only at h
      split at h <;> exact nomatch h
    | finite t y => exact nomatch h
  | finite s x =>
    cases b with
    | nan => exact nomatch h
    | infinite t => exact nomatch h
    | finite t y => exact ⟨rfl, rfl⟩

theorem isFinite_of_sum {first : Double} {rest : List Double}
    (h : (sum first rest).isFinite = true) :
    first.isFinite = true ∧ ∀ d ∈ rest, d.isFinite = true := by
  induction rest generalizing first with
  | nil => exact ⟨h, by simp⟩
  | cons d rest ih =>
    rw [sum_cons] at h
    obtain ⟨hfirst, hrest⟩ := ih h
    obtain ⟨ha, hb⟩ := isFinite_of_add hfirst
    exact ⟨ha, List.forall_mem_cons.mpr ⟨hb, hrest⟩⟩

end Double
end OfferRules

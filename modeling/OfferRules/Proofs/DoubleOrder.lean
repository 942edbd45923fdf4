import OfferRules.Number.Basic
import OfferRules.Proofs.RoundingOrder

/-!
# The order of doubles

A sum of doubles that are not below zero is not below zero.  A product with a double from zero to
below one may be rounded up to the other factor: the doubles that this can happen to are those up to
`2 ^ -1022`.

## Main definitions

* `Double.IsDraw` — a double is at least zero and below one.
* `Double.leastNormal` — `2 ^ -1022`, from which on doubles have 53 digits.

## Main results

* `Double.add_not_lt_zero`, `Double.sum_not_lt_zero` — sums of doubles that are not below zero.
* `Double.IsDraw.mul_le_mul` — products with draws are in the order of the draws.
* `Double.exists_le_mul_iff` — **the doubles that a product with a draw can reach.**
-/

namespace OfferRules

attribute [local irreducible] Magnitude.bound Magnitude.perOne

/-! ### The order -/

namespace Place

theorem le_trans {a b c : Place} (hab : a.le b = true) (hbc : b.le c = true) : a.le c = true := by
  cases a <;> cases b <;> cases c <;> simp_all [le]
  omega

theorem lt_asymm {a b : Place} (h : a.lt b = true) : b.lt a = false := by
  cases a <;> cases b <;> simp_all [lt, le]
  omega

end Place

namespace Number

variable {m n : Number}

theorem le_eq_true : m.le n = true ↔
    ∃ p q, m.place? = some p ∧ n.place? = some q ∧ p.le q = true := by
  unfold le
  cases m.place? <;> cases n.place? <;> simp

theorem le_trans {l : Number} (hlm : l.le m = true) (hmn : m.le n = true) : l.le n = true := by
  obtain ⟨p, q, hp, hq, hpq⟩ := le_eq_true.mp hlm
  obtain ⟨q', r, hq', hr, hqr⟩ := le_eq_true.mp hmn
  obtain rfl := Option.some.inj (hq.symm.trans hq')
  exact le_eq_true.mpr ⟨p, r, hp, hr, Place.le_trans hpq hqr⟩

theorem ne_nan_of_le {x : Double} (h : m.le (.double x) = true) : x ≠ .nan := by
  obtain ⟨p, q, -, hq, -⟩ := le_eq_true.mp h
  rintro rfl
  cases hq

theorem not_lt_of_le (h : m.le n = true) : n.lt m = false := by
  obtain ⟨p, q, hp, hq, hpq⟩ := le_eq_true.mp h
  rw [lt, hp, hq]
  simp [Place.lt, hpq]

theorem lt_asymm (h : m.lt n = true) : n.lt m = false := by
  unfold lt at h ⊢
  cases hp : m.place? with
  | none =>
    rw [hp] at h
    cases h
  | some p =>
    cases hq : n.place? with
    | none => rfl
    | some q =>
      rw [hp, hq] at h
      exact Place.lt_asymm h

end Number

namespace Double

/-! ### Sums of doubles that are not below zero -/

/-- A double is below zero when it has a negative sign and is no zero. -/
theorem lt_zero_eq_false {d : Double} :
    d.lt zero = false ↔ (d.isNegative = true → d.isZero = true) := by
  cases d with
  | nan => exact ⟨nofun, fun _ => rfl⟩
  | infinite s => cases s <;> simp [lt, place?, Place.lt, Place.le, zero, isNegative, isZero]
  | finite s x =>
    cases s <;>
      simp [lt, place?, Place.lt, Place.le, zero, Magnitude.zero, isNegative, isZero]

theorem ofUnits_not_lt_zero (num den : Nat) : (ofUnits false num den).lt zero = false := by
  rw [lt_zero_eq_false]
  unfold ofUnits
  cases Magnitude.nearest? num den with
  | none => exact nofun
  | some size => exact nofun

theorem isNegative_eq_false {d : Double} (h : d.lt zero = false) (hzero : ¬ d.isZero = true) :
    d.isNegative = false :=
  Bool.eq_false_iff.mpr fun hsign => hzero (lt_zero_eq_false.mp h hsign)

/-- A sum of two doubles that are not below zero is not below zero. -/
theorem add_not_lt_zero {a b : Double} (ha : a.lt zero = false) (hb : b.lt zero = false) :
    (a + b).lt zero = false := by
  -- zeros, of either sign, are put aside, so that the signs that are left are positive
  by_cases hza : a.isZero = true
  · rw [lt_congr (place?_zero_add hza b) rfl, hb]
  by_cases hzb : b.isZero = true
  · rw [lt_congr (place?_add_zero a hzb) rfl, ha]
  have hsa := isNegative_eq_false ha hza
  have hsb := isNegative_eq_false hb hzb
  rw [add_def]
  cases a with
  | nan => rfl
  | infinite s =>
    obtain rfl : s = false := hsa
    cases b with
    | nan => rfl
    | infinite t =>
      obtain rfl : t = false := hsb
      rfl
    | finite t y => rfl
  | finite s x =>
    obtain rfl : s = false := hsa
    cases b with
    | nan => rfl
    | infinite t =>
      obtain rfl : t = false := hsb
      rfl
    | finite t y =>
      obtain rfl : t = false := hsb
      exact ofUnits_not_lt_zero _ _

theorem sum_not_lt_zero {first : Double} {rest : List Double} (hfirst : first.lt zero = false)
    (hrest : ∀ d ∈ rest, d.lt zero = false) : (sum first rest).lt zero = false := by
  induction rest generalizing first with
  | nil => exact hfirst
  | cons d rest ih =>
    rw [List.forall_mem_cons] at hrest
    exact ih (add_not_lt_zero hfirst hrest.1) hrest.2

theorem le_ofUnits {x : Magnitude} {num den : Nat} :
    (finite false x).le (ofUnits false num den) = true ↔ x.units ≤ Magnitude.rounded num den := by
  unfold ofUnits
  cases hnearest : Magnitude.nearest? num den with
  | none =>
    -- the quotient is rounded out of range, and so above the magnitude
    have hbound : Magnitude.bound ≤ Magnitude.rounded num den := Magnitude.bound_le_rounded hnearest
    exact iff_of_true rfl (Nat.le_of_lt (Nat.lt_of_lt_of_le x.units_lt hbound))
  | some y =>
    rw [← Magnitude.units_of_nearest? hnearest]
    simp [le, place?, Place.le]

/-! ### Products with a draw -/

theorem place?_one : one.place? = some (.units Magnitude.perOne) := by
  obtain ⟨d, hd⟩ := exists_place?_eq (n := 1) (by decide)
  obtain ⟨s, x, -, hunits, -⟩ := exists_of_place? hd
  have hone : one = .finite false x := by
    have hx : 1 * Magnitude.perOne = x.units := hunits.symm
    rw [one, ofNat, hx, ofUnits_units]
  rw [hone, place?, hunits]
  simp

/-- A double is at least zero and below one. -/
def IsDraw (u : Double) : Prop := zero.le u = true ∧ u.lt one = true

theorem ofUnits_le_ofUnits {num num' den : Nat} (hden : 0 < den) (h : num ≤ num') :
    (ofUnits false num den).le (ofUnits false num' den) = true := by
  have hmono := Magnitude.rounded_mono hden h
  cases hnearest : Magnitude.nearest? num den with
  | some x =>
    have hfinite : ofUnits false num den = .finite false x := by
      unfold ofUnits
      rw [hnearest]
    rw [← Magnitude.units_of_nearest? hnearest] at hmono
    rw [hfinite]
    exact le_ofUnits.mpr hmono
  | none =>
    -- what is rounded out of range is infinite, and so is the greater quotient
    have hbound := Nat.le_trans (Magnitude.bound_le_rounded hnearest) hmono
    cases hnearest' : Magnitude.nearest? num' den with
    | none =>
      unfold ofUnits
      rw [hnearest, hnearest']
      rfl
    | some y =>
      rw [← Magnitude.units_of_nearest? hnearest'] at hbound
      exact absurd y.units_lt (Nat.not_lt_of_le hbound)

theorem IsDraw.exists_units {u : Double} (h : u.IsDraw) :
    ∃ s y, u = .finite s y ∧ (s = true → y.units = 0) ∧ y.units < Magnitude.perOne := by
  obtain ⟨hzero, hone⟩ := h
  cases u with
  | nan => cases hzero
  | infinite s =>
    cases s with
    | true => cases hzero
    | false =>
      rw [lt, place?_one] at hone
      cases hone
  | finite s y =>
    cases s with
    | true =>
      -- a draw with a negative sign is the negative zero
      have hy : y.units = 0 := by
        simpa [le, place?, zero, Magnitude.zero, Place.le] using hzero
      exact ⟨true, y, rfl, fun _ => hy, hy ▸ Magnitude.perOne_pos⟩
    | false =>
      rw [lt, place?_one] at hone
      have hlt : y.units < Magnitude.perOne := by
        simpa [place?, Place.lt, Place.le] using hone
      exact ⟨false, y, rfl, fun hsign => Bool.noConfusion hsign, hlt⟩

theorem ofUnits_zero (s : Bool) {den : Nat} (hden : 0 < den) : (ofUnits s 0 den).isZero = true := by
  have hround : Magnitude.rounded 0 den = 0 := by
    have hpos := Nat.mul_pos hden (Nat.two_pow_pos (excessBits (0 / den)))
    have hzero := roundHalfEven_mul 0 hpos
    rw [Nat.zero_mul] at hzero
    exact (congrArg (· * _) hzero).trans (Nat.zero_mul _)
  unfold ofUnits
  cases hnearest : Magnitude.nearest? 0 den with
  | none =>
    have hbound := Magnitude.bound_le_rounded hnearest
    rw [hround] at hbound
    exact absurd Magnitude.bound_pos (Nat.not_lt_of_le hbound)
  | some y =>
    have hy := Magnitude.units_of_nearest? hnearest
    rw [hround] at hy
    exact beq_iff_eq.mpr hy

/-- A product with a draw lies where the rounded product of the magnitudes does. -/
theorem IsDraw.place?_mul {u : Double} (h : u.IsDraw) (x : Magnitude) :
    ∃ y : Magnitude, y.units < Magnitude.perOne ∧ u.place? = some (.units y.units) ∧
      (u * .finite false x).place?
        = (ofUnits false (y.units * x.units) Magnitude.perOne).place? := by
  obtain ⟨s, y, rfl, hsign, hlt⟩ := h.exists_units
  refine ⟨y, hlt, ?_⟩
  cases s with
  | false => exact ⟨rfl, rfl⟩
  | true =>
    -- only zero is a draw with a negative sign
    refine ⟨by simp [place?, hsign rfl], ?_⟩
    show (ofUnits true (y.units * x.units) Magnitude.perOne).place? = _
    rw [hsign rfl, Nat.zero_mul]
    exact place?_eq_iff.mpr (Or.inr
      ⟨ofUnits_zero true Magnitude.perOne_pos, ofUnits_zero false Magnitude.perOne_pos⟩)

theorem exists_of_pos {d : Double} (h : zero.lt d = true) (hfinite : d.isFinite = true) :
    ∃ x : Magnitude, d = .finite false x ∧ 0 < x.units := by
  cases d with
  | nan => exact nomatch hfinite
  | infinite s => exact nomatch hfinite
  | finite s x =>
    cases s with
    | true => simp [lt, place?, zero, Magnitude.zero, Place.lt, Place.le] at h
    | false =>
      refine ⟨x, rfl, Nat.pos_of_ne_zero ?_⟩
      simpa [lt, place?, zero, Magnitude.zero, Place.lt, Place.le] using h

theorem IsDraw.zero_le_mul {u d : Double} (h : u.IsDraw) (hd : zero.lt d = true)
    (hfinite : d.isFinite = true) : zero.le (u * d) = true := by
  obtain ⟨x, rfl, -⟩ := exists_of_pos hd hfinite
  obtain ⟨y, -, -, hplace⟩ := h.place?_mul x
  rw [le_congr rfl hplace]
  exact le_ofUnits.mpr (Nat.zero_le _)

/-- Products with draws are in the order of the draws. -/
theorem IsDraw.mul_le_mul {u v d : Double} (hu : u.IsDraw) (hv : v.IsDraw) (h : u.le v = true)
    (hd : zero.lt d = true) (hfinite : d.isFinite = true) : (u * d).le (v * d) = true := by
  obtain ⟨x, rfl, -⟩ := exists_of_pos hd hfinite
  obtain ⟨y, -, hy, hplace⟩ := hu.place?_mul x
  obtain ⟨z, -, hz, hplace'⟩ := hv.place?_mul x
  have hle : y.units ≤ z.units := by
    rw [le, hy, hz] at h
    simpa [Place.le] using h
  rw [le_congr hplace hplace']
  exact ofUnits_le_ofUnits Magnitude.perOne_pos (Nat.mul_le_mul_right _ hle)

/-- The least double from which on doubles have 53 digits, `2 ^ -1022`. -/
def leastNormal : Double := .finite false .leastNormal

theorem le_leastNormal {x : Magnitude} :
    (finite false x).le leastNormal = true ↔ x.units ≤ Nat.pow 2 52 := by
  have hle : (finite false x).le leastNormal
      = decide ((x.units : Int) ≤ (Nat.pow 2 52 : Nat)) := rfl
  rw [hle, decide_eq_true_iff, Int.ofNat_le]

/-- **The doubles that a product with a draw can reach** are those up to the least normal one. -/
theorem exists_le_mul_iff {d : Double} (hd : zero.lt d = true) (hfinite : d.isFinite = true) :
    (∃ u, IsDraw u ∧ d.le (u * d) = true) ↔ d.le leastNormal = true := by
  obtain ⟨x, rfl, hx⟩ := exists_of_pos hd hfinite
  rw [le_leastNormal]
  constructor
  · rintro ⟨u, hu, hle⟩
    obtain ⟨y, hlt, -, hplace⟩ := hu.place?_mul x
    rw [le_congr rfl hplace, le_ofUnits] at hle
    refine x.le_of_le_rounded Magnitude.perOne_pos ?_ hle
    have hmul := Nat.mul_le_mul_right x.units (y.units_mul_le hlt)
    rwa [Nat.mul_right_comm, Nat.mul_assoc _ Magnitude.perOne, Nat.mul_comm Magnitude.perOne]
      at hmul
  · -- the greatest double below one is a draw that reaches it
    intro h
    obtain ⟨y, hlt, hy⟩ := Magnitude.exists_belowOne
    have hu : (finite false y).IsDraw := by
      refine ⟨by simp [le, place?, zero, Magnitude.zero, Place.le], ?_⟩
      rw [lt, place?_one]
      simpa [place?, Place.lt, Place.le] using hlt
    refine ⟨_, hu, le_ofUnits.mpr (Magnitude.le_rounded_of_le Magnitude.perOne_pos ?_ h)⟩
    rw [Nat.mul_right_comm, hy, Nat.mul_assoc, Nat.mul_comm Magnitude.perOne]

end Double
end OfferRules

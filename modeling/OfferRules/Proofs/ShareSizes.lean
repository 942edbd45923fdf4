import OfferRules.Proofs.DoubleOrder
import OfferRules.Rule.Selection

/-!
# Sizes of shares

A finite number that is not below zero has a size, the number of its units.  Sizes are added exactly
as long as both numbers are whole; otherwise both are rounded to doubles, and their sum is rounded
again.  Rounded, a sum is at least its first part, and adding nothing at most rounds it.

## Main definitions

* `Number.HasSize` — how many units a number has.

## Main results

* `Number.HasSize.toDouble` — the size of the nearest double.
* `Number.size_of_addShares` — **the size of a sum of two shares.**
* `Number.rounded_le_of_addShares`, `Number.pos_of_addShares`, `Number.size_of_addShares_zero` —
  what follows for its first part, its second part, and a second part of zero.
* `Number.le_of_rounded` — no double lies between a number and what it is rounded to.
-/

namespace OfferRules

attribute [local irreducible] Magnitude.bound Magnitude.perOne

namespace Number

/-- A number has so many units, and is not below zero. -/
def HasSize (n : Number) (size : Nat) : Prop := n.place? = some (.units size)

variable {m n : Number} {i j : Nat}

theorem HasSize.le_iff (hm : m.HasSize i) (hn : n.HasSize j) : m.le n = true ↔ i ≤ j := by
  rw [Number.le, hm, hn]
  simp [Place.le]

theorem HasSize.lt_iff (hm : m.HasSize i) (hn : n.HasSize j) : m.lt n = true ↔ i < j := by
  rw [Number.lt, hm, hn]
  simp [Place.lt, Place.le]

theorem hasSize_zero : (Number.double .zero).HasSize 0 := rfl

theorem hasSize_leastNormal : (Number.double .leastNormal).HasSize (Nat.pow 2 52) := rfl

/-- Whether a number is neither an infinity nor not-a-number. -/
def isFinite : Number → Bool
  | int _ => true
  | double d => d.isFinite

theorem exists_units (h : n.isFinite = true) : ∃ k : Int, n.place? = some (.units k) := by
  cases n with
  | int k => exact ⟨_, rfl⟩
  | double d =>
    cases d with
    | nan => cases h
    | infinite s => cases h
    | finite s x => exact ⟨_, rfl⟩

theorem HasSize.not_lt {x : Double} (hn : n.HasSize i) (hx : x ≠ .nan) :
    (Number.double x).lt n = false ↔ n.le (.double x) = true := by
  have hplace : (Number.double x).place? = x.place? := rfl
  rw [lt, le, hn, hplace]
  cases hp : x.place? with
  | none => exact absurd (Double.place?_eq_none.mp hp) hx
  | some p => simp [Place.lt]

/-- A number that is not below zero and at most a finite one is finite. -/
theorem isFinite_of_le (h : n.lt (.double .zero) = false) (hm : m.isFinite = true)
    (hle : n.le m = true) : n.isFinite = true := by
  obtain ⟨k, hk⟩ := exists_units hm
  rw [le, hk] at hle
  cases n with
  | int l => rfl
  | double d =>
    cases d with
    | nan => cases hle
    | infinite s =>
      cases s with
      | true => cases h
      | false => cases hle
    | finite s x => rfl

theorem toDouble?_zero : toDouble? 0 = some .zero := by
  have hzero : toDouble? 0 = Double.ofInt? 0 := rfl
  rw [hzero, Double.ofInt?, Int.natAbs_zero, Nat.zero_mul]
  exact congrArg (Option.map (Double.finite false)) (Magnitude.nearest?_units .zero)

theorem hasSize_double {d : Double} (h : (Number.double d).HasSize i) :
    ∃ s x, d = .finite s x ∧ x.units = i ∧ (s = true → i = 0) := by
  cases d with
  | nan => cases h
  | infinite s => cases s <;> cases h
  | finite s x =>
    have hunits := Place.units.inj (Option.some.inj h)
    cases s with
    | false => exact ⟨false, x, rfl, Int.ofNat_inj.mp hunits, fun hs => Bool.noConfusion hs⟩
    | true =>
      rw [if_pos rfl] at hunits
      exact ⟨true, x, rfl, by omega, fun _ => by omega⟩

theorem HasSize.isFinite (h : n.HasSize i) : n.isFinite = true := by
  cases n with
  | int k => rfl
  | double d =>
    obtain ⟨s, x, rfl, -⟩ := hasSize_double h
    rfl

/-- A finite number that is not below zero has a size. -/
theorem exists_hasSize (h : n.lt (.double .zero) = false) (hfinite : n.isFinite = true) :
    ∃ i, n.HasSize i := by
  obtain ⟨k, hk⟩ := exists_units hfinite
  have hzero : 0 ≤ k := by
    rw [Number.lt, hk, hasSize_zero] at h
    simpa [Place.lt, Place.le] using h
  obtain ⟨i, rfl⟩ := Int.eq_ofNat_of_zero_le hzero
  exact ⟨i, hk⟩

theorem hasSize_int {k : Int} (h : (Number.int k).HasSize i) :
    0 ≤ k ∧ k.natAbs * Magnitude.perOne = i := by
  have hunits : k * Magnitude.perOne = i := Place.units.inj (Option.some.inj h)
  have hpos : 0 ≤ k := by
    refine Int.nonneg_of_mul_nonneg_left (b := Magnitude.perOne) ?_ ?_
    · rw [hunits]
      exact Int.natCast_nonneg i
    · exact Int.natCast_pos.mpr Magnitude.perOne_pos
  refine ⟨hpos, ?_⟩
  rw [← Int.natCast_inj, Int.natCast_mul, Int.natAbs_of_nonneg hpos, hunits]

/-- Rounded to a double, a number has its size rounded. -/
theorem HasSize.toDouble {d : Double} (h : n.HasSize i) (hd : n.toDouble? = some d) :
    (Number.double d).HasSize (Magnitude.rounded i 1) := by
  cases n with
  | int k =>
    obtain ⟨hk, hi⟩ := hasSize_int h
    obtain ⟨y, hy, rfl⟩ := Option.map_eq_some_iff.mp hd
    rw [hi] at hy
    rw [decide_eq_false (by omega), ← Magnitude.units_of_nearest? hy]
    rfl
  | double e =>
    obtain rfl := Option.some.inj hd
    obtain ⟨s, x, -, rfl, -⟩ := hasSize_double h
    rw [x.rounded_units]
    exact h

/-- A number whose size is small enough has a nearest double. -/
theorem HasSize.exists_toDouble (h : n.HasSize i) (hi : Magnitude.rounded i 1 < Magnitude.bound) :
    ∃ d, n.toDouble? = some d := by
  cases n with
  | int k =>
    obtain ⟨-, hk⟩ := hasSize_int h
    cases hnearest : Magnitude.nearest? i 1 with
    | none => exact absurd (Magnitude.bound_le_rounded hnearest) (Nat.not_le_of_lt hi)
    | some y =>
      refine ⟨.finite (decide (k < 0)) y, ?_⟩
      show (Magnitude.nearest? (k.natAbs * Magnitude.perOne) 1).map _ = _
      rw [hk, hnearest]
      rfl
  | double e => exact ⟨e, rfl⟩

/-! ### Sums -/

theorem hasSize_add {a b : Double} (ha : (Number.double a).HasSize i)
    (hb : (Number.double b).HasSize j) (hfinite : (a + b).isFinite = true) :
    (Number.double (a + b)).HasSize (Magnitude.rounded (i + j) 1) := by
  obtain ⟨s, x, rfl, rfl, hs⟩ := hasSize_double ha
  obtain ⟨t, y, rfl, rfl, ht⟩ := hasSize_double hb
  by_cases hx : x.units = 0
  · -- a zero leaves the other part in its place
    rw [hx, Nat.zero_add, y.rounded_units]
    have hzero : (Double.finite s x).isZero = true := beq_iff_eq.mpr hx
    exact (Double.place?_zero_add hzero _).trans hb
  by_cases hy : y.units = 0
  · rw [hy, Nat.add_zero, x.rounded_units]
    have hzero : (Double.finite t y).isZero = true := beq_iff_eq.mpr hy
    exact (Double.place?_add_zero _ hzero).trans ha
  -- what is left has no negative sign
  obtain rfl : s = false := Bool.eq_false_iff.mpr fun hsign => hx (hs hsign)
  obtain rfl : t = false := Bool.eq_false_iff.mpr fun hsign => hy (ht hsign)
  have hsum : Double.finite false x + .finite false y = .ofUnits false (x.units + y.units) 1 := rfl
  rw [hsum] at hfinite ⊢
  unfold Double.ofUnits at hfinite ⊢
  cases hnearest : Magnitude.nearest? (x.units + y.units) 1 with
  | none =>
    rw [hnearest] at hfinite
    cases hfinite
  | some z =>
    rw [← Magnitude.units_of_nearest? hnearest]
    rfl

theorem addShares_double {a : Number} {x : Double} (ha : a.toDouble? = some x) (d : Double) :
    addShares a (.double d) = .ok (.double (x + d)) := by
  have hd : (Number.double d).toDouble? = some d := rfl
  have hadd : a.add? (.double d) = some (.double (x + d)) := by
    rw [Number.add?, ha, hd]
    intro k l _ hl
    cases hl
  rw [addShares, hadd]

theorem double_addShares {b : Number} {y : Double} (d : Double) (hb : b.toDouble? = some y) :
    addShares (.double d) b = .ok (.double (d + y)) := by
  have hd : (Number.double d).toDouble? = some d := rfl
  have hadd : Number.add? (.double d) b = some (.double (d + y)) := by
    rw [Number.add?, hd, hb]
    intro k l hk _
    cases hk
  rw [addShares, hadd]

/-- A sum of two shares is whole if both are, and else it is a sum of the nearest doubles. -/
theorem cases_of_addShares {a b c : Number} (h : addShares a b = .ok c) :
    (∃ k l, a = .int k ∧ b = .int l ∧ c = .int (k + l)) ∨
      ∃ x y, a.toDouble? = some x ∧ b.toDouble? = some y ∧ c = .double (x + y) := by
  have hadd : a.add? b = some c := by
    unfold addShares at h
    split at h
    · next c' hc => rw [hc, Except.ok.inj h]
    · cases h
  unfold Number.add? at hadd
  split at hadd
  · next k l => exact Or.inl ⟨k, l, rfl, rfl, (Option.some.inj hadd).symm⟩
  · split at hadd
    · next x y hx hy => exact Or.inr ⟨x, y, hx, hy, (Option.some.inj hadd).symm⟩
    · cases hadd

theorem isFinite_of_toDouble {d : Double} (hd : n.toDouble? = some d)
    (h : d.isFinite = true) : n.isFinite = true := by
  cases n with
  | int k => rfl
  | double e =>
    obtain rfl := Option.some.inj hd
    exact h

theorem isFinite_of_addShares {a b c : Number} (h : addShares a b = .ok c)
    (hfinite : c.isFinite = true) : a.isFinite = true ∧ b.isFinite = true := by
  rcases cases_of_addShares h with ⟨k, l, rfl, rfl, rfl⟩ | ⟨x, y, hx, hy, rfl⟩
  · exact ⟨rfl, rfl⟩
  · obtain ⟨hfx, hfy⟩ := Double.isFinite_of_add hfinite
    exact ⟨isFinite_of_toDouble hx hfx, isFinite_of_toDouble hy hfy⟩

/-- **The size of a sum of two shares** is that of both, or it is rounded three times. -/
theorem size_of_addShares {a b c : Number} {k : Nat} (h : addShares a b = .ok c)
    (ha : a.HasSize i) (hb : b.HasSize j) (hc : c.HasSize k) :
    k = i + j ∨ ∃ x y z : Magnitude, x.units = Magnitude.rounded i 1 ∧
      y.units = Magnitude.rounded j 1 ∧ z.units = k ∧
      k = Magnitude.rounded (x.units + y.units) 1 := by
  rcases cases_of_addShares h with ⟨m, n, rfl, rfl, rfl⟩ | ⟨d, e, hd, he, rfl⟩
  · -- whole numbers, added as they are
    refine Or.inl ?_
    obtain ⟨hm, rfl⟩ := hasSize_int ha
    obtain ⟨hn, rfl⟩ := hasSize_int hb
    obtain ⟨-, rfl⟩ := hasSize_int hc
    rw [← Nat.add_mul, Int.natAbs_add_of_nonneg hm hn]
  · -- the nearest doubles of both, and the double next to their sum
    refine Or.inr ?_
    have hd' := ha.toDouble hd
    have he' := hb.toDouble he
    obtain ⟨-, x, -, hx, -⟩ := hasSize_double hd'
    obtain ⟨-, y, -, hy, -⟩ := hasSize_double he'
    obtain ⟨-, z, -, hz, -⟩ := hasSize_double hc
    refine ⟨x, y, z, hx, hy, hz, ?_⟩
    have hsum := hasSize_add hd' he' hc.isFinite
    rw [hx, hy]
    exact Int.ofNat_inj.mp (Place.units.inj (Option.some.inj (hc.symm.trans hsum)))

/-- Rounded to a double, a sum is at least its first part. -/
theorem rounded_le_of_addShares {a b c : Number} {k : Nat} (h : addShares a b = .ok c)
    (ha : a.HasSize i) (hb : b.HasSize j) (hc : c.HasSize k) :
    Magnitude.rounded i 1 ≤ Magnitude.rounded k 1 := by
  rcases size_of_addShares h ha hb hc with rfl | ⟨x, y, z, hx, -, rfl, hz⟩
  · exact Magnitude.rounded_mono Nat.one_pos (Nat.le_add_right i j)
  · rw [z.rounded_units, hz, ← hx]
    exact x.units_le_rounded (Nat.le_add_right _ _)

theorem pos_of_addShares {a b c : Number} {k : Nat} (h : addShares a b = .ok c)
    (ha : a.HasSize i) (hb : b.HasSize j) (hc : c.HasSize k) (hj : 0 < j) : 0 < k := by
  rcases size_of_addShares h ha hb hc with rfl | ⟨x, y, z, -, hy, -, rfl⟩
  · exact Nat.add_pos_right i hj
  · have hpos := Magnitude.rounded_pos hj
    exact Magnitude.rounded_pos (by omega)

/-- Adding nothing to a number leaves it, or rounds it to a double. -/
theorem size_of_addShares_zero {a b c : Number} {k : Nat} (h : addShares a b = .ok c)
    (ha : a.HasSize i) (hb : b.HasSize 0) (hc : c.HasSize k) :
    k = i ∨ k = Magnitude.rounded i 1 := by
  rcases size_of_addShares h ha hb hc with rfl | ⟨x, y, z, hx, hy, -, rfl⟩
  · exact Or.inl rfl
  · refine Or.inr ?_
    have hy' : y.units = 0 := hy.trans Magnitude.zero.rounded_units
    rw [hy', Nat.add_zero, x.rounded_units, hx]

/-- A last sum is rounded to a double by adding zero. -/
theorem HasSize.add_zero {x : Double} (h : n.HasSize i)
    (hx : addShares n (.double .zero) = .ok (.double x)) :
    (Number.double x).HasSize (Magnitude.rounded i 1) := by
  rcases cases_of_addShares hx with ⟨k, l, -, hl, -⟩ | ⟨y, z, hy, hz, hsum⟩
  · cases hl
  · obtain rfl := Option.some.inj hz
    injection hsum with hsum
    obtain rfl := hsum
    exact (Double.place?_add_zero y rfl).trans (h.toDouble hy)

/-- A double that is at least zero and has reached a number has reached what the number is rounded
to. -/
theorem le_of_rounded {x : Double} (hx : Double.zero.le x = true) {a b : Number} {k : Nat}
    (ha : a.HasSize i) (hle : a.le (.double x) = true) (hb : b.HasSize k)
    (hk : k = i ∨ k = Magnitude.rounded i 1) : b.le (.double x) = true := by
  by_cases hfinite : x.isFinite = true
  · have hxzero : (Number.double .zero).le (.double x) = true := hx
    have hnot := (hasSize_zero.not_lt (ne_nan_of_le hxzero)).mpr hx
    obtain ⟨j, hj⟩ := exists_hasSize hnot hfinite
    obtain ⟨-, y, -, rfl, -⟩ := hasSize_double hj
    rw [ha.le_iff hj] at hle
    rw [hb.le_iff hj]
    rcases hk with rfl | rfl
    · exact hle
    · exact y.rounded_le_units hle
  · -- beyond all finite numbers
    cases x with
    | nan => cases hx
    | infinite s =>
      cases s with
      | true => cases hx
      | false =>
        rw [Number.le, hb]
        rfl
    | finite s y => exact absurd rfl hfinite

/-! ### Shares that are not below zero -/

theorem toDouble_not_lt_zero {d : Double} (h : n.lt (.double .zero) = false)
    (hd : n.toDouble? = some d) : d.lt .zero = false := by
  cases n with
  | int k =>
    obtain ⟨i, hi⟩ := exists_hasSize h rfl
    obtain ⟨hk, -⟩ := hasSize_int hi
    obtain ⟨y, -, rfl⟩ := Option.map_eq_some_iff.mp hd
    rw [decide_eq_false (by omega), Double.lt_zero_eq_false]
    intro hsign
    cases hsign
  | double e =>
    obtain rfl := Option.some.inj hd
    exact h

/-- A sum of shares that are not below zero is not below zero. -/
theorem addShares_not_lt_zero {a b c : Number} (h : addShares a b = .ok c)
    (ha : a.lt (.double .zero) = false) (hb : b.lt (.double .zero) = false) :
    c.lt (.double .zero) = false := by
  rcases cases_of_addShares h with ⟨k, l, rfl, rfl, rfl⟩ | ⟨x, y, hx, hy, rfl⟩
  · obtain ⟨i, hi⟩ := exists_hasSize ha rfl
    obtain ⟨j, hj⟩ := exists_hasSize hb rfl
    obtain ⟨hk, -⟩ := hasSize_int hi
    obtain ⟨hl, -⟩ := hasSize_int hj
    have hsum : 0 ≤ (k + l) * (Magnitude.perOne : Int) :=
      Int.mul_nonneg (Int.add_nonneg hk hl) (Int.natCast_nonneg _)
    rw [Number.lt, hasSize_zero]
    simpa [Number.place?, Place.lt, Place.le] using hsum
  · exact Double.add_not_lt_zero (toDouble_not_lt_zero ha hx) (toDouble_not_lt_zero hb hy)

end Number
end OfferRules

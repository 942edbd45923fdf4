import Mathlib.Order.Basic
import OfferRules.Proofs.DoubleOrder
import OfferRules.Proofs.StrictEquality
import OfferRules.Rule.Operator

/-!
# Order before and after rounding

Equality compares numbers by their exact values, while the operators of the order look at them as
doubles.  Rounding keeps the order of exact values, though it may put two of them in one place, so
the operators never say the contrary of the exact order.  Between doubles and whole numbers of at
most `2 ^ 53`, which no rounding moves, they say exactly what it is.

## Main definitions

* `Place.rounded` — the place to which a place is rounded.
* `Number.IsExact` — no rounding moves a number.

## Main results

* `Place.rounded_le` — **rounding keeps the order.**
* `Number.place?_of_toNumber` — a number counts as the double at its rounded place.
* `Operator.compare_number` — **the operators of the order never contradict the exact order**, and
  say what it is where no rounding moves the numbers.
-/

namespace OfferRules

attribute [local irreducible] Magnitude.bound Magnitude.perOne

/-! ### Rounding places -/

namespace Place

/-- The place to which a place is rounded: that of the nearest magnitude, with the same sign. -/
def rounded : Place → Place
  | bottom => bottom
  | units n => units (if n < 0 then -(Magnitude.rounded n.natAbs 1 : Int)
      else Magnitude.rounded n.natAbs 1)
  | top => top

@[simp] theorem rounded_bottom : bottom.rounded = bottom := rfl

@[simp] theorem rounded_top : top.rounded = top := rfl

theorem rounded_neg {n : Nat} (h : 0 < n) :
    (units (-(n : Int))).rounded = units (-(Magnitude.rounded n 1 : Int)) := by
  have hne : n ≠ 0 := by omega
  simp [rounded, hne]

theorem rounded_natCast (n : Nat) : (units (n : Int)).rounded = units (Magnitude.rounded n 1) := by
  have hpos : ¬ (n : Int) < 0 := by omega
  simp [rounded, hpos]

/-- Rounding keeps the order of places. -/
theorem rounded_le {p q : Place} (h : p.le q = true) : p.rounded.le q.rounded = true := by
  cases p with
  | bottom => cases q <;> rfl
  | top => cases q <;> simp_all [le]
  | units m =>
    cases q with
    | bottom => simp [le] at h
    | top => rfl
    | units n =>
      have hmn : m ≤ n := by simpa [le] using h
      simp only [rounded, le, decide_eq_true_eq]
      -- magnitudes grow away from zero, on both of its sides
      split
      · split
        · have hmono := Magnitude.rounded_mono Nat.one_pos (by omega : n.natAbs ≤ m.natAbs)
          omega
        · omega
      · split
        · omega
        · have hmono := Magnitude.rounded_mono Nat.one_pos (by omega : m.natAbs ≤ n.natAbs)
          omega

end Place

/-! ### Numbers as doubles -/

namespace Double

/-- The place of a double stays where it is. -/
theorem place?_rounded (d : Double) : d.place?.map Place.rounded = d.place? := by
  cases d with
  | nan => rfl
  | infinite negative => cases negative <;> rfl
  | finite negative x =>
    have hx := x.rounded_units
    cases negative with
    | false => simp [place?, Place.rounded_natCast, hx]
    | true =>
      rcases Nat.eq_zero_or_pos x.units with hzero | hpos
      · have hplace := Place.rounded_natCast x.units
        rw [hx, hzero] at hplace
        simpa [place?, hzero] using hplace
      · simp [place?, Place.rounded_neg hpos, hx]

end Double

namespace Number

/-- No rounding moves a number: it is a double, or a whole number of at most `2 ^ 53`. -/
def IsExact : Number → Prop
  | int n => n.natAbs ≤ Nat.pow 2 53
  | double _ => True

/-- A number counts as a double at its rounded place. -/
theorem place?_of_toNumber {n : Number} {x : Double} (h : (Value.number n).toNumber = .ok x) :
    x.place? = n.place?.map Place.rounded := by
  cases n with
  | double d =>
    obtain rfl : d = x := Except.ok.inj h
    exact d.place?_rounded.symm
  | int n =>
    obtain ⟨m, hm, rfl⟩ : ∃ m, Magnitude.nearest? (n.natAbs * Magnitude.perOne) 1 = some m ∧
        Double.finite (decide (n < 0)) m = x := by
      have hsome : Double.ofInt? n = some x := by
        have hof : (Double.ofInt? n).elim (.error Fault.overflow) .ok = Except.ok x := h
        cases hn : Double.ofInt? n with
        | none => simp [hn] at hof
        | some d => simpa [hn] using hof
      exact Option.map_eq_some_iff.mp hsome
    have hunits := Magnitude.units_of_nearest? hm
    have hone := Magnitude.perOne_pos
    by_cases hn : n < 0
    · have habs : n * (Magnitude.perOne : Int) = -((n.natAbs * Magnitude.perOne : Nat) : Int) := by
        rw [Int.natCast_mul, ← Int.neg_mul, show -(n.natAbs : Int) = n by omega]
      have hpos : 0 < n.natAbs * Magnitude.perOne := Nat.mul_pos (by omega) hone
      generalize n.natAbs * Magnitude.perOne = k at habs hpos hunits
      simp [place?, Double.place?, habs, Place.rounded_neg hpos, hn, hunits]
    · have habs : n * (Magnitude.perOne : Int) = ((n.natAbs * Magnitude.perOne : Nat) : Int) := by
        rw [Int.natCast_mul, show (n.natAbs : Int) = n by omega]
      generalize n.natAbs * Magnitude.perOne = k at habs hunits
      simp [place?, Double.place?, habs, Place.rounded_natCast, hn, hunits]

theorem exists_units_of_le {n : Nat} (h : n ≤ Nat.pow 2 53) :
    ∃ x : Magnitude, x.units = n * Magnitude.perOne := by
  obtain ⟨k, hk, hone⟩ := Magnitude.exists_perOne
  obtain ⟨b, hb, hbound⟩ := Magnitude.exists_bound
  have hlt : n * Magnitude.perOne < Magnitude.bound := by
    have hpow : Nat.pow 2 (53 + k) = Nat.pow 2 53 * Nat.pow 2 k := Nat.pow_add 2 53 k
    have hmono : Nat.pow 2 (53 + k) < Nat.pow 2 b := Nat.pow_lt_pow_right (by decide) (by omega)
    rw [hpow] at hmono
    rw [hone, hbound]
    exact Nat.lt_of_le_of_lt (Nat.mul_le_mul_right _ h) hmono
  exact ⟨⟨n * Magnitude.perOne, by rw [hone]; exact Magnitude.onGrid_of_le h, hlt⟩, rfl⟩

/-- No rounding moves an exact number. -/
theorem IsExact.place?_rounded {n : Number} (h : n.IsExact) :
    n.place?.map Place.rounded = n.place? := by
  cases n with
  | double d => exact d.place?_rounded
  | int n =>
    obtain ⟨x, hx⟩ := exists_units_of_le h
    have hdouble := (Double.finite (decide (n < 0)) x).place?_rounded
    have hplace : (Double.finite (decide (n < 0)) x).place? = (int n).place? := by
      have habs : n * (Magnitude.perOne : Int) = if n < 0 then -(x.units : Int) else x.units := by
        rw [hx, Int.natCast_mul, ← Int.neg_mul]
        split
        · rw [show -(n.natAbs : Int) = n by omega]
        · rw [show (n.natAbs : Int) = n by omega]
      simp [place?, Double.place?, habs]
    rwa [hplace] at hdouble

variable {a b : Number} {x y : Double}

theorem le_of_lt (h : a.lt b = true) : a.le b = true := by
  have hplaces : ∀ {p q : Place}, p.lt q = true → p.le q = true := by
    intro p q hpq
    cases p <;> cases q <;> simp_all [Place.lt, Place.le]
    omega
  unfold lt at h
  unfold le
  split at h
  · exact hplaces h
  · cases h

theorem le_of_eq (h : a.eq b = true) : a.le b = true ∧ b.le a = true := by
  obtain ⟨p, hp, hq⟩ := eq_iff.mp h
  have hrefl : p.le p = true := by cases p <;> simp [Place.le]
  exact ⟨le_eq_true.mpr ⟨p, p, hp, hq, hrefl⟩, le_eq_true.mpr ⟨p, p, hq, hp, hrefl⟩⟩

/-- Numbers in order count as doubles in order. -/
theorem le_of_toNumber (hx : (Value.number a).toNumber = .ok x)
    (hy : (Value.number b).toNumber = .ok y) (h : a.le b = true) : x.le y = true := by
  obtain ⟨p, q, hp, hq, hpq⟩ := le_eq_true.mp h
  have hxp := place?_of_toNumber hx
  have hyq := place?_of_toNumber hy
  rw [hp, Option.map_some] at hxp
  rw [hq, Option.map_some] at hyq
  rw [Double.le, hxp, hyq]
  exact Place.rounded_le hpq

/-- An exact number counts as a double at its own place. -/
theorem IsExact.place?_of_toNumber (ha : a.IsExact) (hx : (Value.number a).toNumber = .ok x) :
    x.place? = a.place? :=
  (Number.place?_of_toNumber hx).trans ha.place?_rounded

end Number

namespace Operator

theorem compareNumbers_ok {holds : Double → Double → Bool} {a v : Value} {x y : Double}
    (hx : a.toNumber = .ok x) (hy : v.toNumber = .ok y) :
    compareNumbers holds a v = .ok (holds x y) := by
  unfold compareNumbers
  rw [hx, hy]

/-- **The operators of the order never contradict the exact order.**  Of two numbers that have a
double, the smaller one is found less or equal and not greater, and equal ones are found neither
less nor greater; numbers that no rounding moves are found in their exact order.  So no two numbers
that are strictly equal are found greater or less. -/
theorem compare_number {a b : Number} {x y : Double} (hx : (Value.number a).toNumber = .ok x)
    (hy : (Value.number b).toNumber = .ok y) :
    (a.lt b = true → lte.compare (.number a) (.number b) = .ok true ∧
      gt.compare (.number a) (.number b) = .ok false) ∧
    (a.eq b = true → gte.compare (.number a) (.number b) = .ok true ∧
      lte.compare (.number a) (.number b) = .ok true ∧
      gt.compare (.number a) (.number b) = .ok false ∧
      lt.compare (.number a) (.number b) = .ok false) ∧
    (a.IsExact → b.IsExact → gt.compare (.number a) (.number b) = .ok (b.lt a) ∧
      gte.compare (.number a) (.number b) = .ok (b.le a) ∧
      lt.compare (.number a) (.number b) = .ok (a.lt b) ∧
      lte.compare (.number a) (.number b) = .ok (a.le b)) ∧
    (eq.compare (.number a) (.number b) = .ok true →
      gt.compare (.number a) (.number b) = .ok false ∧
      lt.compare (.number a) (.number b) = .ok false) := by
  have hcompare : ∀ holds, compareNumbers holds (.number a) (.number b) = .ok (holds x y) :=
    fun holds => compareNumbers_ok hx hy
  simp only [compare, hcompare, Except.ok.injEq]
  have hle : a.le b = true → x.le y = true := Number.le_of_toNumber hx hy
  have hge : b.le a = true → y.le x = true := Number.le_of_toNumber hy hx
  have hnot : ∀ {c d : Double}, c.le d = true → d.lt c = false :=
    fun {c d} h => @Number.not_lt_of_le (.double c) (.double d) h
  have hequal : a.eq b = true →
      y.le x = true ∧ x.le y = true ∧ y.lt x = false ∧ x.lt y = false := by
    intro h
    obtain ⟨hab, hba⟩ := Number.le_of_eq h
    exact ⟨hge hba, hle hab, hnot (hle hab), hnot (hge hba)⟩
  refine ⟨fun h => ?_, hequal, fun ha hb => ?_, fun h => (hequal h).2.2⟩
  · have hxy := hle (Number.le_of_lt h)
    exact ⟨hxy, hnot hxy⟩
  · -- the places of the doubles are those of the numbers
    have hxa := ha.place?_of_toNumber hx
    have hyb := hb.place?_of_toNumber hy
    simp [Double.lt, Double.le, Number.lt, Number.le, hxa, hyb]

/-- Two whole numbers next to each other, of which only the first is a double: their doubles are
equal, and the order is not contradicted. -/
theorem compare_number_collapsed :
    (∃ x, (Value.int 9007199254740992).toNumber = .ok x) ∧
      (∃ y, (Value.int 9007199254740993).toNumber = .ok y) ∧
      (Number.int 9007199254740992).lt (.int 9007199254740993) = true ∧
      lte.compare (.int 9007199254740992) (.int 9007199254740993) = .ok true ∧
      gt.compare (.int 9007199254740992) (.int 9007199254740993) = .ok false ∧
      lt.compare (.int 9007199254740992) (.int 9007199254740993) = .ok false := by
  have hx : (Value.int 9007199254740992).toNumber = .ok (Double.ofNat 9007199254740992) := by
    decide +kernel
  have hy : (Value.int 9007199254740993).toNumber = .ok (Double.ofNat 9007199254740992) := by
    decide +kernel
  have hlt : (Number.int 9007199254740992).lt (.int 9007199254740993) = true := by decide +kernel
  obtain ⟨hlte, hgt⟩ := (compare_number hx hy).1 hlt
  have hsame : (Double.ofNat 9007199254740992).lt (Double.ofNat 9007199254740992) = false := by
    decide +kernel
  exact ⟨⟨_, hx⟩, ⟨_, hy⟩, hlt, hlte, hgt, (compareNumbers_ok hx hy).trans (congrArg _ hsame)⟩

end Operator
end OfferRules

import OfferRules.Proofs.DoublePlace
import OfferRules.Proofs.StrictEquality
import OfferRules.Rule.Evaluation

/-!
# Operators respect equality

A value is looked at in three ways, which are defined apart from each other: by strict equality, as
a number and as a text.  Equal data look the same in all three, except that the text of a mapping
shows how its numbers are written and in which order its keys stand.  So no condition tells equal
data apart, provided that no mapping is looked at as a text.

## Main results

* `Value.toNumber_congr` — **equal data have the same place as numbers.**
* `Value.toText_congr` — **equal data without mappings have the same text.**
* `Operator.compare_congr` — operators compare equal data alike.
* `Condition.evaluate_congr` — **no condition tells equal data apart.**
-/

namespace OfferRules

attribute [local irreducible] Magnitude.bound Magnitude.perOne

/-! ### Whole numbers and doubles -/

/-- Whole numbers in one place are equal. -/
theorem Number.int_of_place? {m n : Int} (h : (Number.int m).place? = (Number.int n).place?) :
    m = n := by
  have hone : (Magnitude.perOne : Int) ≠ 0 :=
    Int.natCast_ne_zero.mpr (Nat.ne_of_gt Magnitude.perOne_pos)
  exact Int.eq_of_mul_eq_mul_right hone (Place.units.inj (Option.some.inj h))

/-- What depends on the place of a number only is the same for equal numbers. -/
theorem Number.congr_of_eq {α : Type} {g : Number → α}
    (hint : ∀ (n : Int) (d : Double), (int n).place? = d.place? → g (int n) = g (double d))
    (hdouble : ∀ d e : Double, d.place? = e.place? → g (double d) = g (double e)) {m n : Number}
    (h : m.eq n = true) : g m = g n := by
  obtain ⟨p, hm, hn⟩ := Number.eq_iff.mp h
  have hmn : m.place? = n.place? := hm.trans hn.symm
  cases m with
  | int m =>
    cases n with
    | int n => rw [Number.int_of_place? hmn]
    | double e => exact hint m e hmn
  | double d =>
    cases n with
    | int n => exact (hint n d hmn.symm).symm
    | double e => exact hdouble d e hmn

/-- A whole number in the place of a double has not too many digits to be written. -/
theorem intText_of_place? {n : Int} {d : Double} (h : (Number.int n).place? = d.place?) :
    intText n = .ok (toString n) := by
  obtain ⟨s, x, rfl, hunits, -⟩ := Double.exists_of_place? h
  have hle : n.natAbs ≤ x.units := by
    rw [hunits]
    exact Nat.le_mul_of_pos_right _ Magnitude.perOne_pos
  have hbound : Magnitude.bound ≤ Nat.pow 10 numeralLimit := by
    unfold Magnitude.bound
    -- the exponents are named, so that no step evaluates the powers
    have hlimit : 2098 ≤ numeralLimit := by decide
    generalize 2098 = m at hlimit ⊢
    generalize numeralLimit = l at hlimit ⊢
    exact Nat.le_trans (Nat.pow_le_pow_left (by decide) m)
      (Nat.pow_le_pow_right (by decide) hlimit)
  have hlt : ¬ Nat.pow 10 numeralLimit ≤ n.natAbs := by
    have := x.units_lt
    omega
  rw [intText, if_neg hlt]

namespace Value

/-! ### Numbers -/

theorem exists_of_toNumber_int {n : Int} {d : Double} (h : (Number.int n).place? = d.place?) :
    (Value.int n).toNumber.map Double.place? = .ok d.place? := by
  obtain ⟨d', hd', hplace⟩ := Double.ofInt?_of_place? h
  show (Numeral.ofInt n).map Double.place? = _
  rw [Numeral.ofInt, hd', ← hplace]
  rfl

/-- Equal numbers have the same place as doubles, or both none. -/
theorem toNumber_number {m n : Number} (h : m.eq n = true) :
    (Value.number m).toNumber.map Double.place? = (Value.number n).toNumber.map Double.place? :=
  Number.congr_of_eq (g := fun n => (Value.number n).toNumber.map Double.place?)
    (fun _ _ => exists_of_toNumber_int) (fun _ _ hplace => congrArg Except.ok hplace) h

/-- Equal data have the same place as numbers, or both fail to have a double. -/
theorem toNumber_congr {a b : Value} (ha : a.isData = true) (h : a.strictEq b = true) :
    a.toNumber.map Double.place? = b.toNumber.map Double.place? := by
  induction a using tree_induction generalizing b with
  | atom a =>
    obtain ⟨b, rfl, hab⟩ := strictEq_atom.mp h
    rcases (Atom.strictEq_iff ha).mp hab with ⟨m, n, rfl, rfl, hmn⟩ | ⟨-, rfl⟩
    · exact toNumber_number hmn
    · rfl
  | list xs ih =>
    obtain ⟨ys, rfl, hlength, hitems⟩ := strictEq_list.mp h
    -- only lists of one item are looked into
    match xs, ys, hlength with
    | [], [], _ => rfl
    | [x], [y], _ =>
      show x.toNumber.map Double.place? = y.toNumber.map Double.place?
      have hx := isData_list.mp ha x List.mem_cons_self
      exact ih x List.mem_cons_self hx (hitems 0 x y rfl rfl)
    | _ :: _ :: _, _ :: _ :: _, _ => rfl
  | map xs ih =>
    obtain ⟨ys, rfl, -⟩ := (strictEq_map fun p hp => ((isData_map.mp ha).2 p hp).1).mp h
    rfl
  | set members => exact nomatch ha
  | pair a b => exact nomatch ha

/-! ### Texts -/

theorem atomText_of_place? {n : Int} {d : Double} (h : (Number.int n).place? = d.place?) :
    atomText (.number (.int n)) = atomText (.number (.double d)) := by
  rw [atomText, atomText, intText_of_place? h, Double.toInt?_of_place? h]
  rfl

/-- Equal numbers have the same text: a double that is whole is written as a whole number. -/
theorem atomText_number {m n : Number} (h : m.eq n = true) :
    atomText (.number m) = atomText (.number n) := by
  refine Number.congr_of_eq (g := fun n => atomText (.number n))
    (fun _ _ => atomText_of_place?) (fun d e hplace => ?_) h
  rcases Double.place?_eq_iff.mp hplace with rfl | ⟨hd, he⟩
  · rfl
  · -- zeros of both signs are the whole number zero
    have hzero : ∀ {f : Double}, f.isZero = true →
        atomText (.number (.int 0)) = atomText (.number (.double f)) := by
      intro f hf
      apply atomText_of_place?
      rw [Double.place?_eq_zero.mpr hf, Number.place?, Int.zero_mul]
    rw [← hzero hd, ← hzero he]

theorem isNull_congr {a b : Value} (ha : a.isData = true) (h : a.strictEq b = true) :
    a.isNull = b.isNull := by
  cases a with
  | atom a =>
    obtain ⟨b, rfl, hab⟩ := strictEq_atom.mp h
    rcases (Atom.strictEq_iff ha).mp hab with ⟨m, n, rfl, rfl, -⟩ | ⟨-, rfl⟩ <;> rfl
  | list xs =>
    obtain ⟨ys, rfl, -⟩ := strictEq_list.mp h
    rfl
  | map xs =>
    obtain ⟨ys, rfl, -⟩ := (strictEq_map fun p hp => ((isData_map.mp ha).2 p hp).1).mp h
    rfl
  | set members => exact nomatch ha
  | pair a b => exact nomatch ha

theorem itemTexts_congr {xs ys : List Value} (hlength : xs.length = ys.length)
    (h : ∀ (i : Nat) (x y : Value), xs[i]? = some x → ys[i]? = some y →
      x.isNull = y.isNull ∧ x.toText = y.toText) : itemTexts xs = itemTexts ys := by
  induction xs generalizing ys with
  | nil =>
    obtain rfl := List.length_eq_zero_iff.mp hlength.symm
    rfl
  | cons x xs ih =>
    cases ys with
    | nil => exact nomatch hlength
    | cons y ys =>
      obtain ⟨hnull, htext⟩ := h 0 x y rfl rfl
      have hrest : itemTexts xs = itemTexts ys :=
        ih (Nat.add_right_cancel hlength) fun i x' y' hx hy => h (i + 1) x' y' hx hy
      rw [itemTexts, itemTexts, hnull, htext, hrest]

/-- Equal data without mappings have the same text, or fail to have one in the same way. -/
theorem toText_congr {a b : Value} (ha : a.isData = true) (hflat : a.isFlat = true)
    (h : a.strictEq b = true) : a.toText = b.toText := by
  induction a using tree_induction generalizing b with
  | atom a =>
    obtain ⟨b, rfl, hab⟩ := strictEq_atom.mp h
    rcases (Atom.strictEq_iff ha).mp hab with ⟨m, n, rfl, rfl, hmn⟩ | ⟨-, rfl⟩
    · exact atomText_number hmn
    · rfl
  | list xs ih =>
    obtain ⟨ys, rfl, hlength, hitems⟩ := strictEq_list.mp h
    rw [toText, toText, itemTexts_congr hlength]
    intro i x y hx hy
    have hmem := List.mem_of_getElem? hx
    have hdata := isData_list.mp ha x hmem
    exact ⟨isNull_congr hdata (hitems i x y hx hy),
      ih x hmem hdata (isFlat_list.mp hflat x hmem) (hitems i x y hx hy)⟩
  | map xs => exact nomatch hflat
  | set members => exact nomatch ha
  | pair a b => exact nomatch ha

end Value

/-! ### Comparisons -/

namespace Operator

variable {a b : Value}

/-- An operator of some name has that name. -/
theorem name_of_named? {s : Text} {o : Operator} (h : named? s = some o) : s = o.name := by
  have hname := List.find?_some h
  exact (of_decide_eq_true hname).symm

theorem compareNumbers_congr {holds : Double → Double → Bool}
    (hholds : ∀ x y d, x.place? = y.place? → holds x d = holds y d)
    (h : a.toNumber.map Double.place? = b.toNumber.map Double.place?) (literal : Value) :
    compareNumbers holds a literal = compareNumbers holds b literal := by
  unfold compareNumbers
  cases ha : a.toNumber with
  | ok x =>
    rw [ha] at h
    cases hb : b.toNumber with
    | ok y =>
      rw [hb] at h
      have hplace : x.place? = y.place? := Except.ok.inj h
      cases literal.toNumber with
      | ok d => exact congrArg Except.ok (hholds x y d hplace)
      | error f => rfl
    | error f => rw [hb] at h; exact nomatch h
  | error f =>
    rw [ha] at h
    cases hb : b.toNumber with
    | ok y => rw [hb] at h; exact nomatch h
    | error g =>
      rw [hb] at h
      obtain rfl : f = g := Except.error.inj h
      rfl

/-- Operators compare equal data alike.  Those that look at texts do so where there are no
mappings. -/
theorem compare_congr (o : Operator) (ha : a.isData = true) (hb : b.isData = true)
    (h : a.strictEq b = true) (hflat : o = contains ∨ o = pattern → a.isFlat = true)
    (literal : Value) : o.compare a literal = o.compare b literal := by
  have hnumber := Value.toNumber_congr ha h
  have hitems : isMember? a literal = isMember? b literal := by
    unfold isMember?
    split
    · next items =>
      have hsame : (fun item => a.strictEq item) = fun item => b.strictEq item :=
        funext (Value.strictEq_congr ha hb h)
      rw [hsame]
    · rfl
  cases o with
  | eq => rw [compare, compare, Value.strictEq_congr ha hb h]
  | neq => rw [compare, compare, Value.strictEq_congr ha hb h]
  | gt => exact compareNumbers_congr (fun _ _ d h => Double.lt_congr (a := d) rfl h) hnumber literal
  | gte =>
    exact compareNumbers_congr (fun _ _ d h => Double.le_congr (a := d) rfl h) hnumber literal
  | lt => exact compareNumbers_congr (fun _ _ d h => Double.lt_congr (b := d) h rfl) hnumber literal
  | lte =>
    exact compareNumbers_congr (fun _ _ d h => Double.le_congr (b := d) h rfl) hnumber literal
  | member => rw [compare, compare, hitems]
  | nonmember => rw [compare, compare, hitems]
  | contains =>
    have htext := Value.toText_congr ha (hflat (Or.inl rfl)) h
    rw [compare, compare, Value.contains, Value.contains, htext]
  | pattern =>
    have htext := Value.toText_congr ha (hflat (Or.inr rfl)) h
    rw [compare, compare, matchesPattern, matchesPattern, htext]

end Operator

/-! ### Conditions -/

namespace Condition

/-- **No condition tells equal data apart.**  Where its path leads to one of two equal data for two
players, its evaluation for them is the same, with its notices and faults.  For operators that look
at texts, the data must have no mapping in them. -/
theorem evaluate_congr (c : Condition) {p q a b : Value} (ha : a.isData = true)
    (hb : b.isData = true) (h : a.strictEq b = true)
    (hp : p.resolve c.field = .ok (some a)) (hq : q.resolve c.field = .ok (some b))
    (hflat : c.operator = "contains" ∨ c.operator = "regex" → a.isFlat = true) :
    c.evaluate p = c.evaluate q := by
  have hjudge : c.judge a = c.judge b := by
    unfold judge
    cases ho : Operator.named? c.operator with
    | none => rfl
    | some o =>
      have hname := Operator.name_of_named? ho
      have htext : o = .contains ∨ o = .pattern → a.isFlat = true := by
        rintro (rfl | rfl)
        · exact hflat (Or.inl hname)
        · exact hflat (Or.inr hname)
      dsimp only
      rw [Operator.compare_congr o ha hb h htext]
  unfold evaluate
  rw [hp, hq]
  dsimp only
  rw [Value.isNull_congr ha h, hjudge]

/-- A list of whole numbers, and the same numbers as doubles, of which one is the negative zero. -/
theorem evaluate_congr_zeros :
    (Value.list [.int 10, .int 0]).strictEq
        (.list [.double (.ofNat 10), .double (.finite true .zero)]) = true ∧
      evaluate ⟨"scores", "contains", .text "10,0"⟩
          (.record [("scores", .list [.int 10, .int 0])])
        = evaluate ⟨"scores", "contains", .text "10,0"⟩
          (.record [("scores", .list [.double (.ofNat 10), .double (.finite true .zero)])]) := by
  have heq : (Value.list [.int 10, .int 0]).strictEq
      (.list [.double (.ofNat 10), .double (.finite true .zero)]) = true := by decide +kernel
  exact ⟨heq, evaluate_congr ⟨"scores", "contains", .text "10,0"⟩ rfl rfl heq rfl rfl
    fun _ => rfl⟩

end Condition
end OfferRules

import OfferRules.Proofs.ConditionAnswers
import OfferRules.Proofs.RoundedOrder

/-!
# The order between values of any kinds

The operators of the order look at every value as a double, whatever it is: a text, a truth value, a
list of one item.  Doubles other than not-a-number are in a total order, and so the four operators
agree with each other on all values that count as one; where a value counts as not-a-number, none of
the four holds.

## Main definitions

* `Operator.Answers` — what a condition with an operator answers, wherever the value is found.

## Main results

* `Double.le_total` — doubles other than not-a-number are in a total order.
* `Operator.answers_ordered` — **the four operators are coherent on all values.**
-/

namespace OfferRules

/-! ### The total order of doubles -/

theorem Place.le_total (p q : Place) : p.le q = true ∨ q.le p = true := by
  cases p <;> cases q <;> simp [Place.le]
  omega

namespace Double

variable {x y z : Double}

theorem exists_place? (h : x ≠ .nan) : ∃ p, x.place? = some p := by
  cases x with
  | nan => contradiction
  | infinite negative => exact ⟨_, rfl⟩
  | finite negative size => exact ⟨_, rfl⟩

/-- Two doubles other than not-a-number are in one order or in the other. -/
theorem le_total (hx : x ≠ .nan) (hy : y ≠ .nan) : x.le y = true ∨ y.le x = true := by
  obtain ⟨p, hp⟩ := exists_place? hx
  obtain ⟨q, hq⟩ := exists_place? hy
  simpa [le, hp, hq] using Place.le_total p q

/-- Less is not greater or equal, of doubles other than not-a-number. -/
theorem lt_eq_not_le (hx : x ≠ .nan) (hy : y ≠ .nan) : x.lt y = !y.le x := by
  obtain ⟨p, hp⟩ := exists_place? hx
  obtain ⟨q, hq⟩ := exists_place? hy
  simp [lt, le, hp, hq, Place.lt]

theorem le_trans (hxy : x.le y = true) (hyz : y.le z = true) : x.le z = true :=
  @Number.le_trans (.double y) (.double z) (.double x) hxy hyz

/-- Nothing is in order with not-a-number. -/
theorem unordered_of_nan (h : x = .nan ∨ y = .nan) : x.lt y = false ∧ x.le y = false := by
  rcases h with rfl | rfl
  · exact ⟨rfl, rfl⟩
  · unfold lt le
    cases x.place? <;> exact ⟨rfl, rfl⟩

/-- Of two doubles other than not-a-number, one is less or both are in either order. -/
theorem trichotomy (hx : x ≠ .nan) (hy : y ≠ .nan) :
    [y.lt x, x.lt y, y.le x && x.le y].count true = 1 := by
  rw [lt_eq_not_le hx hy, lt_eq_not_le hy hx]
  have htotal := le_total hx hy
  cases hxy : x.le y with
  | true => cases y.le x <;> rfl
  | false =>
    rw [htotal.resolve_left (by simp [hxy])]
    rfl

end Double

/-! ### Answers of conditions -/

/-- Null counts as not-a-number. -/
theorem Value.isNull_eq_false_of_toNumber {v : Value} {y : Double} (hy : v.toNumber = .ok y)
    (hne : y ≠ .nan) : v.isNull = false := by
  unfold Value.isNull
  split
  · have hnan : Double.nan = y := Except.ok.inj hy
    exact absurd hnan.symm hne
  · rfl

namespace Operator

/-- What a condition with an operator and a literal answers wherever its path leads to a value: the
same for every path and every player. -/
def Answers (o : Operator) (a v : Value) (b : Bool) : Prop :=
  ∀ (field : Text) (player : Value), player.resolve field = .ok (some a) →
    Condition.evaluate ⟨field, o.name, v⟩ player = Pure.pure b

variable {o : Operator} {a v : Value} {b b' : Bool}

theorem Answers.of_compare (ha : a.isNull = false) (h : o.compare a v = .ok b) : o.Answers a v b :=
  fun _ _ hfield => Condition.evaluate_of_compare hfield ha h

/-- There is only one answer, since every value stands in some player. -/
theorem Answers.unique (hleft : o.Answers a v b) (hright : o.Answers a v b') : b = b' := by
  have hfield : (Value.map [(.text "", a)]).resolve "" = .ok (some a) := by
    have hname : Text.ofPoints [] = "" := rfl
    simp [Value.resolve, splitDots, Value.follow, Value.child, Entries.get?, Atom.same_text, hname]
  have hpure : (Pure.pure b : Traced Bool) = Pure.pure b' :=
    (hleft "" _ hfield).symm.trans (hright "" _ hfield)
  exact Except.ok.inj (congrArg Traced.outcome hpure)

/-- A comparison as numbers answers what it is of the doubles. -/
theorem answers_order {x y : Double} (ha : a.isNull = false) (hx : a.toNumber = .ok x)
    (hy : v.toNumber = .ok y) :
    gt.Answers a v (y.lt x) ∧ gte.Answers a v (y.le x) ∧
      lt.Answers a v (x.lt y) ∧ lte.Answers a v (x.le y) :=
  ⟨.of_compare ha (compareNumbers_ok hx hy), .of_compare ha (compareNumbers_ok hx hy),
    .of_compare ha (compareNumbers_ok hx hy), .of_compare ha (compareNumbers_ok hx hy)⟩

/-- **The four operators of the order are coherent on all values.**  On values of which one counts
as not-a-number, none holds.  On others, exactly one holds of greater, less, and both of greater or
equal and less or equal; greater or equal is the contrary of less, and less or equal that of
greater; and greater or equal is transitive.  With the sides exchanged, greater is less. -/
theorem answers_ordered {a v : Value} {x y : Double} (ha : a.isNull = false)
    (hx : a.toNumber = .ok x) (hy : v.toNumber = .ok y) :
    ∃ g ge l le : Bool,
      (gt.Answers a v g ∧ gte.Answers a v ge ∧ lt.Answers a v l ∧ lte.Answers a v le) ∧
      (x = .nan ∨ y = .nan → g = false ∧ ge = false ∧ l = false ∧ le = false) ∧
      (x ≠ .nan → y ≠ .nan → [g, l, ge && le].count true = 1 ∧ ge = !l ∧ le = !g) ∧
      (v.isNull = false → lt.Answers v a g ∧ lte.Answers v a ge) ∧
      (∀ w z, w.toNumber = .ok z → x ≠ .nan → y ≠ .nan → z ≠ .nan →
        gte.Answers a v true → gte.Answers v w true → gte.Answers a w true) := by
  refine ⟨y.lt x, y.le x, x.lt y, x.le y, answers_order ha hx hy, ?_, ?_, ?_, ?_⟩
  · intro hnan
    have hxy := Double.unordered_of_nan hnan
    have hyx := Double.unordered_of_nan hnan.symm
    exact ⟨hyx.1, hyx.2, hxy.1, hxy.2⟩
  · intro hxn hyn
    refine ⟨Double.trichotomy hxn hyn, ?_, ?_⟩
    · simp [Double.lt_eq_not_le hxn hyn]
    · simp [Double.lt_eq_not_le hyn hxn]
  · intro hv
    obtain ⟨-, -, hlt, hlte⟩ := answers_order hv hy hx
    exact ⟨hlt, hlte⟩
  · intro w z hz _ hyn _ hav hvw
    have hv := Value.isNull_eq_false_of_toNumber hy hyn
    -- the answers determine the order of the doubles, which is transitive
    have hyx : y.le x = true := (answers_order ha hx hy).2.1.unique hav
    have hzy : z.le y = true := (answers_order hv hy hz).2.1.unique hvw
    have haw := (answers_order ha hx hz).2.1
    rwa [Double.le_trans hzy hyx] at haw

/-- A list of a hexadecimal text and a truth value: the first counts as sixteen and the second as
one, and so the first is greater and the second is less. -/
theorem answers_ordered_mixed :
    (Value.list [.text "0x10"]).isNull = false ∧
      (Value.list [.text "0x10"]).toNumber = .ok (Double.ofNat 16) ∧
      (Value.bool true).toNumber = .ok Double.one ∧
      ∃ g : Bool, gt.Answers (.list [.text "0x10"]) (.bool true) g ∧
        lt.Answers (.bool true) (.list [.text "0x10"]) g := by
  have hx : (Value.list [.text "0x10"]).toNumber = .ok (Double.ofNat 16) := by decide +kernel
  have hy : (Value.bool true).toNumber = .ok Double.one := by decide +kernel
  obtain ⟨g, _, _, _, ⟨hgt, -⟩, -, -, hswap, -⟩ := answers_ordered rfl hx hy
  exact ⟨rfl, hx, hy, g, hgt, (hswap rfl).1⟩

end Operator
end OfferRules

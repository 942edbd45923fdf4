import Mathlib.Data.List.TakeWhile
import OfferRules.Proofs.DoubleRange
import OfferRules.Proofs.JsonValues
import OfferRules.Proofs.Traced
import OfferRules.Rule.Evaluation

/-!
# Which conditions fail

Evaluating a condition on data in JSON form gives an answer except in a few cases, which are told
here exactly: the path meets a list at digits that are no index, a whole number compared by its
size is too large for a double, a whole number compared as a text has too many digits, or reading a
pattern fails with something other than a problem of the pattern.

## Main definitions

* `Value.Strays` — a path meets a list at digits that are no index.
* `Value.overflows` — a value counts as a number that is too large for a double.
* `Operator.Breaks`, `Condition.Breaks` — a comparison or a condition has no answer.

## Main results

* `Value.resolve_fails_iff` — a path fails exactly when it strays.
* `Value.toNumber_isOk` — a value has a double exactly when it does not overflow.
* `Operator.compare_fails_iff` — a comparison fails exactly when it breaks.
* `Condition.evaluate_ok_iff` — **which conditions have an answer.**
-/

namespace OfferRules

/-! ### Paths -/

/-- Whether a segment is made of digits but is no index, as a digit has no place in decimal
notation or there are too many of them. -/
def isStray (segment : List CodePoint) : Bool :=
  isDigits segment &&
    (!segment.all (CodePoint.isChar isDecimalDigit) || decide (numeralLimit < segment.length))

theorem segmentIndex_isOk (segment : List CodePoint) :
    (segmentIndex segment).isOk =
      !(!segment.all (CodePoint.isChar isDecimalDigit) ||
        decide (numeralLimit < segment.length)) := by
  unfold segmentIndex
  dsimp only
  by_cases hdecimal : segment.all (CodePoint.isChar isDecimalDigit) = true
  · rw [List.takeWhile_eq_self_iff.mpr (List.all_eq_true.mp hdecimal), hdecimal]
    by_cases hlong : numeralLimit < segment.length
    · rw [if_pos hlong, decide_eq_true hlong]
      rfl
    · rw [if_neg hlong, decide_eq_false hlong]
      rfl
  · rw [if_neg hdecimal, Bool.eq_false_iff.mpr hdecimal]
    split <;> rfl

namespace Value

/-- Digits name no place exactly when they are stray. -/
theorem isStray_iff {segment : List CodePoint} :
    isStray segment = true ↔ isDigits segment = true ∧ ∃ f, segmentIndex segment = .error f := by
  rw [← isOk_eq_false, segmentIndex_isOk, Bool.not_eq_false', isStray, Bool.and_eq_true]

theorem child_fails_iff {segment : List CodePoint} {v : Value} :
    (∃ f, v.child segment = .error f) ↔ ∃ items, v = .list items ∧ isStray segment = true := by
  cases v with
  | list items => simp [child_list_eq_error, isStray_iff]
  | atom a => simp [child]
  | map entries => simp [child]
  | set members => simp [child]
  | pair a b => simp [child]

/-- Following segments fails exactly when a list is met at a segment of digits that is no index. -/
theorem follow_fails_iff {segments : List (List CodePoint)} {v : Value} :
    (∃ f, v.follow segments = .error f) ↔ ∃ before segment behind items,
      segments = before ++ segment :: behind ∧ v.follow before = .ok (some (.list items)) ∧
        isStray segment = true := by
  induction segments generalizing v with
  | nil => simp [follow]
  | cons segment rest ih =>
    simp only [follow_cons_eq_error]
    constructor
    · -- the fault is met at this step or behind it
      rintro ⟨f, hchild | ⟨part, hchild, hrest⟩⟩
      · obtain ⟨items, rfl, hstray⟩ := child_fails_iff.mp ⟨f, hchild⟩
        exact ⟨[], segment, rest, items, rfl, rfl, hstray⟩
      · obtain ⟨before, stray, behind, items, rfl, hlist, hstray⟩ := ih.mp ⟨f, hrest⟩
        exact ⟨segment :: before, stray, behind, items, rfl,
          follow_cons_eq_some.mpr ⟨part, hchild, hlist⟩, hstray⟩
    · rintro ⟨before, stray, behind, items, heq, hlist, hstray⟩
      cases before with
      | nil =>
        -- the way has just begun, at a list
        obtain ⟨rfl, rfl⟩ := List.cons.inj heq
        obtain rfl := Option.some.inj (Except.ok.inj hlist)
        obtain ⟨f, hf⟩ := child_fails_iff.mpr ⟨items, rfl, hstray⟩
        exact ⟨f, Or.inl hf⟩
      | cons first before =>
        obtain ⟨rfl, rfl⟩ := List.cons.inj heq
        obtain ⟨part, hchild, hrest⟩ := follow_cons_eq_some.mp hlist
        obtain ⟨f, hf⟩ := ih.mpr ⟨before, stray, behind, items, rfl, hrest, hstray⟩
        exact ⟨f, Or.inr ⟨part, hchild, hf⟩⟩

/-- The way along a path meets a list at digits that are no index. -/
def Strays (v : Value) (path : Text) : Prop :=
  ∃ before segment behind items, splitDots path.points = before ++ segment :: behind ∧
    v.follow before = .ok (some (.list items)) ∧ isStray segment = true

theorem resolve_fails_iff {v : Value} {path : Text} :
    (∃ f, v.resolve path = .error f) ↔ v.Strays path :=
  follow_fails_iff

/-! ### Numbers -/

/-- Whether a value, or the only item of a list, counts as a whole number that is too large for a
double. -/
def overflows : Value → Bool
  | .atom (.number (.int n)) => decide (Double.wholeBound ≤ n.natAbs)
  | .atom (.text (.whole s)) =>
    (Numeral.radix? (strip s.toList)).any fun n => decide (Double.wholeBound ≤ n)
  | .list [v] => overflows v
  | _ => false
termination_by structural v => v

theorem ofInt_isOk (n : Int) :
    (Numeral.ofInt n).isOk = !decide (Double.wholeBound ≤ n.natAbs) := by
  have hsome : (Numeral.ofInt n).isOk = (Double.ofInt? n).isSome := by
    unfold Numeral.ofInt
    cases Double.ofInt? n <;> rfl
  rw [hsome, Bool.eq_iff_iff, Option.isSome_iff_ne_none, Ne, Double.ofInt?_eq_none,
    Bool.not_eq_true', decide_eq_false_iff_not]

theorem ofString_isOk (s : String) :
    (Numeral.ofString s).isOk = !(Value.text s).overflows := by
  unfold Numeral.ofString overflows
  dsimp only
  split
  · next hempty =>
    rw [List.isEmpty_iff.mp hempty]
    rfl
  · cases Numeral.radix? (strip s.toList) with
    | none => rfl
    | some n =>
      have hn := ofInt_isOk n
      rw [Int.natAbs_natCast] at hn
      rw [Option.any_some, ← hn]

theorem ofText_isOk (t : Text) : (Numeral.ofText t).isOk = !(Value.text t).overflows := by
  cases t with
  | whole s => exact ofString_isOk s
  | torn before s after => rfl

/-- A value has a double exactly when it does not overflow. -/
theorem toNumber_isOk (v : Value) : v.toNumber.isOk = !v.overflows := by
  fun_induction Value.toNumber v with
  | case1 b => rfl
  | case2 n => exact ofInt_isOk n
  | case3 d => rfl
  | case4 s => exact ofText_isOk s
  | case5 => rfl
  | case6 v ih => exact ih
  | case7 v hbool hint hdouble htext hnil hone =>
    have hfits : v.overflows = false := by
      unfold overflows
      split
      · next n => exact absurd rfl (hint n)
      · next s => exact absurd rfl (htext (.whole s))
      · next w => exact absurd rfl (hone w)
      · rfl
    rw [hfits]
    rfl

end Value

/-! ### Comparisons -/

namespace Operator

/-- A comparison of two values in JSON form has no answer: a number is too large, a text is too
long, or reading the pattern fails otherwise than by a problem of the pattern. -/
def Breaks (actual literal : Value) : Operator → Prop
  | gt | gte | lt | lte => actual.overflows = true ∨ literal.overflows = true
  | contains => actual.isWritable = false ∨ literal.isWritable = false
  | pattern => literal.isWritable = false ∨ ∃ text, literal.toText = .ok text ∧
      ((∃ f, Pattern.parse text.points = .error (.fault f)) ∨
        (∃ p, Pattern.parse text.points = .ok p) ∧ actual.isWritable = false)
  | eq | neq | member | nonmember => False

variable {actual literal : Value}

theorem compareNumbers_fails_iff {holds : Double → Double → Bool} :
    (∃ f, compareNumbers holds actual literal = .error (.fault f)) ↔
      actual.overflows = true ∨ literal.overflows = true := by
  have hactual := actual.toNumber_isOk
  have hliteral := literal.toNumber_isOk
  unfold compareNumbers
  cases ha : actual.overflows with
  | true =>
    rw [ha] at hactual
    obtain ⟨f, hf⟩ := isOk_eq_false.mp hactual
    simp [hf]
  | false =>
    rw [ha] at hactual
    obtain ⟨a, hok⟩ := isOk_eq_true.mp hactual
    cases hl : literal.overflows with
    | true =>
      rw [hl] at hliteral
      obtain ⟨f, hf⟩ := isOk_eq_false.mp hliteral
      simp [hok, hf]
    | false =>
      rw [hl] at hliteral
      obtain ⟨b, hok'⟩ := isOk_eq_true.mp hliteral
      simp [hok, hok']

theorem contains_fails_iff (hactual : actual.isJson = true) (hliteral : literal.isJson = true) :
    (∃ f, actual.contains literal = .error f) ↔
      actual.isWritable = false ∨ literal.isWritable = false := by
  rw [← actual.toText_isOk hactual, ← literal.toText_isOk hliteral]
  unfold Value.contains
  cases literal.toText <;> cases actual.toText <;> simp [Except.isOk, Except.toBool]

theorem readPattern_eq_ok {text : Text} {p : Pattern} :
    readPattern text = .ok p ↔ Pattern.parse text.points = .ok p := by
  unfold readPattern
  split <;> simp_all

theorem readPattern_eq_fault {text : Text} {f : Fault} :
    readPattern text = .error (.fault f) ↔ Pattern.parse text.points = .error (.fault f) := by
  unfold readPattern
  split <;> simp_all

theorem matchesPattern_fails_iff (hactual : actual.isJson = true)
    (hliteral : literal.isJson = true) :
    (∃ f, matchesPattern actual literal = .error (.fault f)) ↔ pattern.Breaks actual literal := by
  have hactual' := actual.toText_isOk hactual
  have hliteral' := literal.toText_isOk hliteral
  unfold matchesPattern Breaks
  rw [← hactual', ← hliteral']
  cases ht : literal.toText with
  | error f => simp [Except.isOk, Except.toBool]
  | ok text =>
    -- the value is looked at only once the pattern is read
    simp only [Except.ok.injEq, exists_eq_left', ← readPattern_eq_ok, ← readPattern_eq_fault]
    cases hp : readPattern text with
    | error failure => simp [Except.isOk, Except.toBool]
    | ok p => cases actual.toText <;> simp [Except.isOk, Except.toBool]

/-- A comparison of values in JSON form fails exactly when it breaks. -/
theorem compare_fails_iff (o : Operator) (hactual : actual.isJson = true)
    (hliteral : literal.isJson = true) :
    (∃ f, o.compare actual literal = .error (.fault f)) ↔ o.Breaks actual literal := by
  cases o with
  | eq => simp [compare, Breaks]
  | neq => simp [compare, Breaks]
  | gt => exact compareNumbers_fails_iff
  | gte => exact compareNumbers_fails_iff
  | lt => exact compareNumbers_fails_iff
  | lte => exact compareNumbers_fails_iff
  | member => simp [compare, Breaks]
  | nonmember => simp [compare, Breaks]
  | contains =>
    refine Iff.trans ?_ (contains_fails_iff hactual hliteral)
    unfold compare
    cases actual.contains literal with
    | ok b => exact ⟨nofun, nofun⟩
    | error f => exact ⟨fun _ => ⟨f, rfl⟩, fun _ => ⟨f, rfl⟩⟩
  | pattern => exact matchesPattern_fails_iff hactual hliteral

end Operator

/-! ### Conditions -/

namespace Condition

open Traced

/-- Whether a condition holds for a player cannot be told: its path strays, or the comparison of
the value it leads to breaks. -/
def Breaks (c : Condition) (player : Value) : Prop :=
  player.Strays c.field ∨ ∃ actual o, player.resolve c.field = .ok (some actual) ∧
    actual ≠ .null ∧ Operator.named? c.operator = some o ∧ o.Breaks actual c.value

theorem judge_fails_iff {c : Condition} {actual : Value} :
    (∃ f, (c.judge actual).outcome = .error f) ↔
      ∃ o, Operator.named? c.operator = some o ∧
        ∃ f, o.compare actual c.value = .error (.fault f) := by
  unfold judge
  cases ho : Operator.named? c.operator with
  | none => simp [bind_outcome_eq_error]
  | some o =>
    cases hcompare : o.compare actual c.value with
    | ok b => simp [hcompare]
    | error failure => cases failure <;> simp [hcompare, bind_outcome_eq_error]

theorem evaluate_fails_iff {c : Condition} {player : Value} (hplayer : player.isJson = true)
    (hvalue : c.value.isJson = true) :
    (∃ f, (c.evaluate player).outcome = .error f) ↔ c.Breaks player := by
  unfold evaluate Breaks
  rw [← Value.resolve_fails_iff]
  cases hr : player.resolve c.field with
  | error f => simp
  | ok found =>
    cases found with
    | none => simp
    | some actual =>
      have hactual : actual.isJson = true := Value.isJson_follow hplayer hr
      dsimp only
      by_cases hnull : actual.isNull = true
      · obtain rfl := Value.isNull_iff.mp hnull
        simp [hnull]
      · have hsome : actual ≠ .null := fun h => hnull (Value.isNull_iff.mpr h)
        rw [if_neg hnull, judge_fails_iff]
        simp [hsome, Operator.compare_fails_iff _ hactual hvalue]

/-- **Which conditions have an answer.**  A condition on data in JSON form is answered with yes or
no, unless its path meets a list at digits that are no index, or the comparison of what it leads
to breaks: a number is too large for a double, a number is too long for a text, or reading a pattern
fails otherwise than by a problem of the pattern. -/
theorem evaluate_ok_iff (c : Condition) (player : Value) (hplayer : player.isJson = true)
    (hvalue : c.value.isJson = true) :
    (∃ b, (c.evaluate player).outcome = .ok b) ↔ ¬ c.Breaks player := by
  rw [← evaluate_fails_iff hplayer hvalue]
  cases (c.evaluate player).outcome <;> simp

/-- A number of a player compared with a whole number in base sixteen has an answer. -/
theorem evaluate_ok_radix :
    (Value.record [("level", .int 20)]).isJson = true ∧ (Value.text "0x10").isJson = true ∧
      ¬ Breaks ⟨"level", "gte", .text "0x10"⟩ (.record [("level", .int 20)]) := by
  have hplayer : (Value.record [("level", .int 20)]).isJson = true := rfl
  have hanswer : (evaluate ⟨"level", "gte", .text "0x10"⟩
      (.record [("level", .int 20)])).isTrue = true := by decide +kernel
  exact ⟨hplayer, rfl, (evaluate_ok_iff ⟨"level", "gte", .text "0x10"⟩ _ hplayer rfl).mp
    ⟨true, isTrue_iff.mp hanswer⟩⟩

/-- A superscript is a digit but no index, so a path that meets a list with it has no answer. -/
theorem evaluate_superscript :
    (Value.record [("x", .list [.int 1])]).isJson = true ∧ (Value.int 1).isJson = true ∧
      ¬ ∃ b, (evaluate ⟨"x.²", "eq", .int 1⟩
        (.record [("x", .list [.int 1])])).outcome = .ok b := by
  have hfails : (evaluate ⟨"x.²", "eq", .int 1⟩
      (.record [("x", .list [.int 1])])).outcome.isOk = false := by decide +kernel
  refine ⟨rfl, rfl, ?_⟩
  rintro ⟨b, hb⟩
  rw [hb] at hfails
  exact nomatch hfails

end Condition
end OfferRules

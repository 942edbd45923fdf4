import OfferRules.Proofs.Traced
import OfferRules.Rule.Evaluation

/-!
# How a condition is answered

A condition is answered in stages: where its path leads, whether the value there is null, whether
its operator exists, and what the operator says.  Each way through the stages has one answer, given
here with its notices.

## Main results

* `Operator.named?_name` — an operator is found by its name.
* `Condition.evaluate_of_absent`, `Condition.evaluate_of_found` — what is not there does not hold,
  what is there is judged.
* `Condition.judge_of_unknown`, `Condition.judge_of_ok`, `Condition.judge_of_badPattern`,
  `Condition.judge_of_fault` — **the four ways to be judged.**
-/

namespace OfferRules

open Traced

/-- An operator is found by its name. -/
@[simp] theorem Operator.named?_name (o : Operator) : named? o.name = some o := by
  cases o <;> decide

namespace Condition

variable {c : Condition} {player a : Value}

/-! ### Where the path leads -/

/-- A fault on the way along the path is the answer. -/
theorem evaluate_of_error {f : Fault} (h : player.resolve c.field = .error f) :
    c.evaluate player = ofExcept (.error f) := by
  simp [evaluate, h]

/-- The path of a condition leads to nothing, or to null. -/
def Absent (c : Condition) (player : Value) : Prop :=
  player.resolve c.field = .ok none ∨ player.resolve c.field = .ok (some .null)

/-- The path of a condition leads to a value that is not null. -/
def Found (c : Condition) (player a : Value) : Prop :=
  player.resolve c.field = .ok (some a) ∧ a.isNull = false

/-- What is not there does not hold. -/
theorem evaluate_of_absent (h : c.Absent player) : c.evaluate player = Pure.pure false := by
  rcases h with h | h <;> simp [evaluate, h, Value.isNull]

/-- What is there is judged. -/
theorem evaluate_of_found (h : c.Found player a) : c.evaluate player = c.judge a := by
  simp [evaluate, h.1, h.2]

/-- A path ends in a fault, at nothing or null, or at a value. -/
theorem cases_of_resolve (c : Condition) (player : Value) :
    (∃ f, player.resolve c.field = .error f) ∨ c.Absent player ∨ ∃ a, c.Found player a := by
  cases h : player.resolve c.field with
  | error f => exact Or.inl ⟨f, rfl⟩
  | ok found =>
    cases found with
    | none => exact Or.inr (Or.inl (Or.inl h))
    | some a =>
      cases ha : a.isNull with
      | false => exact Or.inr (Or.inr ⟨a, h, ha⟩)
      | true =>
        obtain rfl : a = .null := by
          unfold Value.isNull at ha
          split at ha
          · rfl
          · cases ha
        exact Or.inr (Or.inl (Or.inr h))

/-! ### What the operator says -/

/-- An operator that does not exist gives a notice. -/
theorem judge_of_unknown (h : Operator.named? c.operator = none) :
    c.judge a = ⟨[.unknownOperator c.operator c.field], .ok false⟩ := by
  simp only [judge, h]
  rfl

variable {o : Operator}

/-- What an operator says is the answer. -/
theorem judge_of_ok (ho : Operator.named? c.operator = some o) {b : Bool}
    (h : o.compare a c.value = .ok b) : c.judge a = Pure.pure b := by
  simp only [judge, ho, h]

/-- A pattern that cannot be read gives a notice. -/
theorem judge_of_badPattern (ho : Operator.named? c.operator = some o) {pattern problem : Text}
    (h : o.compare a c.value = .error (.badPattern pattern problem)) :
    c.judge a = ⟨[.invalidPattern c.field pattern problem], .ok false⟩ := by
  simp only [judge, ho, h]
  rfl

/-- A fault of an operator is the answer. -/
theorem judge_of_fault (ho : Operator.named? c.operator = some o) {f : Fault}
    (h : o.compare a c.value = .error (.fault f)) : c.judge a = ofExcept (.error f) := by
  simp only [judge, ho, h]

/-- A condition answers as its operator says of the value that it finds. -/
theorem evaluate_of_compare {field : Text} {v : Value} {b : Bool}
    (hfield : player.resolve field = .ok (some a)) (ha : a.isNull = false)
    (h : o.compare a v = .ok b) :
    Condition.evaluate ⟨field, o.name, v⟩ player = Pure.pure b := by
  rw [evaluate_of_found ⟨hfield, ha⟩]
  exact judge_of_ok o.named?_name h

end Condition
end OfferRules

import OfferRules.Log.Traced

/-!
# Laws of traced evaluation

What one evaluation after another ends with and which notices it gives, and the same for the
tests of a list that are evaluated until one decides.

## Main definitions

* `Traced.isTrue` — an evaluation ends with the answer yes.
* `Traced.Says` — all notices of an evaluation are of some kind.

## Main results

* `Traced.bind_outcome`, `Traced.bind_outcome_eq_ok`, `Traced.bind_outcome_eq_error` — how two
  evaluations in a row end.
* `Traced.pure_bind_eq`, `Traced.bind_pure_eq` — a value adds nothing to an evaluation in a row.
* `Traced.allHold_congr`, `Traced.anyHolds_congr` — tests that agree on a list.
* `Traced.allHold_pure`, `Traced.anyHolds_pure` — tests that only answer.
* `Traced.says_bind`, `Traced.says_allHold`, `Traced.says_anyHolds` — kinds of notices are kept.
-/

namespace OfferRules.Traced

variable {α β : Type}

/-! ### Outcomes -/

@[simp] theorem ofExcept_outcome (r : Except Fault α) : (ofExcept r).outcome = r := rfl

@[simp] theorem ofExcept_notices (r : Except Fault α) : (ofExcept r).notices = [] := rfl

@[simp] theorem tell_outcome (n : Notice) : (tell n).outcome = .ok () := rfl

@[simp] theorem tell_notices (n : Notice) : (tell n).notices = [n] := rfl

theorem bind_outcome_eq_ok {x : Traced α} {f : α → Traced β} {b : β} :
    (x >>= f).outcome = .ok b ↔ ∃ a, x.outcome = .ok a ∧ (f a).outcome = .ok b := by
  cases h : x.outcome with
  | ok a => simp [bind_ok h]
  | error e => simp [bind_error h]

theorem bind_outcome_eq_error {x : Traced α} {f : α → Traced β} {e : Fault} :
    (x >>= f).outcome = .error e ↔
      x.outcome = .error e ∨ ∃ a, x.outcome = .ok a ∧ (f a).outcome = .error e := by
  cases h : x.outcome with
  | ok a => simp [bind_ok h]
  | error e' => simp [bind_error h]

/-- How evaluations in a row end depends on how each of them does. -/
theorem bind_outcome (x : Traced α) (f : α → Traced β) :
    (x >>= f).outcome = x.outcome >>= fun a => (f a).outcome := by
  cases h : x.outcome with
  | ok a =>
    rw [bind_ok h]
    rfl
  | error e =>
    rw [bind_error h]
    rfl

theorem pure_bind_eq (a : α) (f : α → Traced β) : Pure.pure a >>= f = f a := by
  simp [bind_ok (pure_outcome a)]

theorem bind_pure_eq (x : Traced α) : x >>= Pure.pure = x := by
  obtain ⟨notices, outcome⟩ := x
  cases outcome with
  | ok a => rw [bind_ok rfl, pure_notices, List.append_nil, pure_outcome]
  | error e => rw [bind_error rfl]

/-- Nothing comes after a fault. -/
theorem ofExcept_error_bind (e : Fault) (f : α → Traced β) :
    ofExcept (.error e) >>= f = ofExcept (.error e) :=
  bind_error rfl f

/-- Whether an evaluation ends with the answer yes. -/
def isTrue (x : Traced Bool) : Bool :=
  match x.outcome with
  | .ok b => b
  | .error _ => false

@[simp] theorem isTrue_iff {x : Traced Bool} : x.isTrue = true ↔ x.outcome = .ok true := by
  unfold isTrue
  cases x.outcome <;> simp

/-! ### Tests of a list -/

@[simp] theorem allHold_nil (test : α → Traced Bool) : allHold test [] = Pure.pure true := rfl

theorem allHold_cons (test : α → Traced Bool) (a : α) (rest : List α) :
    allHold test (a :: rest)
      = (test a >>= fun b => if b then allHold test rest else Pure.pure false) := rfl

@[simp] theorem anyHolds_nil (test : α → Traced Bool) : anyHolds test [] = Pure.pure false := rfl

theorem anyHolds_cons (test : α → Traced Bool) (a : α) (rest : List α) :
    anyHolds test (a :: rest)
      = (test a >>= fun b => if b then Pure.pure true else anyHolds test rest) := rfl

/-- Tests that agree on the items of a list give one evaluation of it. -/
theorem allHold_congr {test test' : α → Traced Bool} {as : List α}
    (h : ∀ a ∈ as, test a = test' a) : allHold test as = allHold test' as := by
  induction as with
  | nil => rfl
  | cons a rest ih =>
    rw [List.forall_mem_cons] at h
    rw [allHold_cons, allHold_cons, h.1, ih h.2]

theorem anyHolds_congr {test test' : α → Traced Bool} {as : List α}
    (h : ∀ a ∈ as, test a = test' a) : anyHolds test as = anyHolds test' as := by
  induction as with
  | nil => rfl
  | cons a rest ih =>
    rw [List.forall_mem_cons] at h
    rw [anyHolds_cons, anyHolds_cons, h.1, ih h.2]

theorem allHold_map (test : β → Traced Bool) (f : α → β) (as : List α) :
    allHold test (as.map f) = allHold (fun a => test (f a)) as := by
  induction as with
  | nil => rfl
  | cons a rest ih => rw [List.map_cons, allHold_cons, allHold_cons, ih]

theorem anyHolds_map (test : β → Traced Bool) (f : α → β) (as : List α) :
    anyHolds test (as.map f) = anyHolds (fun a => test (f a)) as := by
  induction as with
  | nil => rfl
  | cons a rest ih => rw [List.map_cons, anyHolds_cons, anyHolds_cons, ih]

/-- Tests that only answer are those of a list of answers. -/
theorem allHold_pure {test : α → Traced Bool} {p : α → Bool} {as : List α}
    (h : ∀ a ∈ as, test a = Pure.pure (p a)) : allHold test as = Pure.pure (as.all p) := by
  induction as with
  | nil => rfl
  | cons a rest ih =>
    rw [List.forall_mem_cons] at h
    rw [allHold_cons, h.1, pure_bind_eq, ih h.2, List.all_cons]
    cases p a <;> rfl

theorem anyHolds_pure {test : α → Traced Bool} {p : α → Bool} {as : List α}
    (h : ∀ a ∈ as, test a = Pure.pure (p a)) : anyHolds test as = Pure.pure (as.any p) := by
  induction as with
  | nil => rfl
  | cons a rest ih =>
    rw [List.forall_mem_cons] at h
    rw [anyHolds_cons, h.1, pure_bind_eq, ih h.2, List.any_cons]
    cases p a <;> rfl

/-! ### Kinds of notices -/

/-- All notices of an evaluation are of some kind. -/
def Says (kind : Notice → Prop) (x : Traced α) : Prop := ∀ n ∈ x.notices, kind n

variable {kind : Notice → Prop}

theorem says_pure (a : α) : Says kind (Pure.pure a : Traced α) := by simp [Says]

theorem says_ofExcept (r : Except Fault α) : Says kind (ofExcept r) := by simp [Says]

theorem says_tell {n : Notice} (h : kind n) : Says kind (tell n) := by simpa [Says] using h

/-- Two evaluations in a row give notices of a kind if the first does, and the second does
wherever the first leads. -/
theorem says_bind {x : Traced α} {f : α → Traced β} (hx : Says kind x)
    (hf : ∀ a, Says kind (f a)) : Says kind (x >>= f) := by
  intro n hn
  cases h : x.outcome with
  | ok a =>
    rw [bind_ok h, List.mem_append] at hn
    exact hn.elim (hx n) (hf a n)
  | error e =>
    rw [bind_error h] at hn
    exact hx n hn

theorem says_allHold {test : α → Traced Bool} (h : ∀ a, Says kind (test a)) (as : List α) :
    Says kind (allHold test as) := by
  induction as with
  | nil => exact says_pure true
  | cons a rest ih =>
    rw [allHold_cons]
    refine says_bind (h a) fun b => ?_
    cases b with
    | true => exact ih
    | false => exact says_pure false

theorem says_anyHolds {test : α → Traced Bool} (h : ∀ a, Says kind (test a)) (as : List α) :
    Says kind (anyHolds test as) := by
  induction as with
  | nil => exact says_pure false
  | cons a rest ih =>
    rw [anyHolds_cons]
    refine says_bind (h a) fun b => ?_
    cases b with
    | true => exact says_pure true
    | false => exact ih

end OfferRules.Traced

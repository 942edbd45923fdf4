import OfferRules.Proofs.Outcome
import OfferRules.Validation.Scalar

/-!
# Laws of collecting issues

What is read from several parts is there exactly when each part is, and the issues found are those
of the parts, one after the other.  A list has the issues of its items, each under its place.

## Main definitions

* `Checked.issues` — the issues found.
* `Value.items?` — the items of a value that is read as a list.

## Main results

* `Checked.ap_eq_ok`, `Checked.issues_ap` — reading two parts.
* `Checked.items_eq_ok`, `Checked.issues_items` — reading the items of a list.
* `Field.optional_eq_ok` — reading an entry that may be missing.
-/

namespace OfferRules

variable {α β γ : Type}

namespace Checked

/-- The issues found; there are none where something was read. -/
def issues : Checked α → List Issue
  | .ok _ => []
  | .error found => found

/-! ### Parts -/

@[simp] theorem under_eq_ok {step : Step} {x : Checked α} {a : α} :
    under step x = .ok a ↔ x = .ok a := by
  cases x with
  | ok b => exact Iff.rfl
  | error found => exact ⟨nofun, nofun⟩

theorem ap_eq_ok {f : Checked (α → β)} {x : Checked α} {b : β} :
    ap f x = .ok b ↔ ∃ g a, f = .ok g ∧ x = .ok a ∧ g a = b := by
  cases f <;> cases x <;> simp [ap]

theorem ap_map_eq_ok {f : α → β → γ} {x : Checked α} {y : Checked β} {c : γ} :
    ap (x.map f) y = .ok c ↔ ∃ a b, x = .ok a ∧ y = .ok b ∧ f a b = c := by
  cases x <;> cases y <;> simp [ap, Except.map]

@[simp] theorem isOk_ap_map (f : α → β → γ) (x : Checked α) (y : Checked β) :
    (ap (x.map f) y).isOk = (x.isOk && y.isOk) := by
  cases x <;> cases y <;> rfl

@[simp] theorem isOk_under (step : Step) (x : Checked α) : (under step x).isOk = x.isOk := by
  cases x <;> rfl

@[simp] theorem issues_ap (f : Checked (α → β)) (x : Checked α) :
    issues (ap f x) = issues f ++ issues x := by
  cases f <;> cases x <;> simp [ap, issues]

@[simp] theorem issues_map (f : α → β) (x : Checked α) : issues (x.map f) = issues x := by
  cases x <;> rfl

@[simp] theorem issues_under (step : Step) (x : Checked α) :
    issues (under step x) = (issues x).map (·.under step) := by
  cases x <;> rfl

/-- Where nothing was read, all that is known are the issues. -/
theorem eq_error_of_isOk {x : Checked α} (h : x.isOk = false) : x = .error (issues x) := by
  cases x with
  | ok a => exact nomatch h
  | error found => rfl

/-! ### Lists -/

variable {read : Value → Checked α}

theorem itemsFrom_eq_ok {n : Nat} {vs : List Value} {as : List α} :
    itemsFrom read n vs = .ok as ↔ vs.map read = as.map .ok := by
  induction vs generalizing n as with
  | nil => simp [itemsFrom, eq_comm]
  | cons v rest ih =>
    rw [itemsFrom, ap_map_eq_ok]
    simp only [under_eq_ok, ih]
    cases as with
    | nil => simp
    | cons a as => simp

/-- A list is read exactly when each of its items is. -/
theorem items_eq_ok {vs : List Value} {as : List α} :
    items read vs = .ok as ↔ vs.map read = as.map .ok :=
  itemsFrom_eq_ok

/-- All items are read exactly when each of them is. -/
theorem exists_map_eq_ok {vs : List Value} :
    (∃ as : List α, vs.map read = as.map .ok) ↔ ∀ v ∈ vs, ∃ a, read v = .ok a := by
  constructor
  · rintro ⟨as, has⟩ v hv
    have hmem : read v ∈ as.map Except.ok := has ▸ List.mem_map_of_mem hv
    obtain ⟨a, -, ha⟩ := List.mem_map.mp hmem
    exact ⟨a, ha.symm⟩
  · intro h
    induction vs with
    | nil => exact ⟨[], rfl⟩
    | cons v rest ih =>
      rw [List.forall_mem_cons] at h
      obtain ⟨a, ha⟩ := h.1
      obtain ⟨as, has⟩ := ih h.2
      exact ⟨a :: as, by rw [List.map_cons, List.map_cons, ha, has]⟩

theorem isOk_itemsFrom (n : Nat) (vs : List Value) :
    (itemsFrom read n vs).isOk = vs.all fun v => (read v).isOk := by
  induction vs generalizing n with
  | nil => rfl
  | cons v rest ih => rw [itemsFrom, isOk_ap_map, isOk_under, ih, List.all_cons]

theorem isOk_items (vs : List Value) : (items read vs).isOk = vs.all fun v => (read v).isOk :=
  isOk_itemsFrom 0 vs

theorem issues_itemsFrom (n : Nat) (vs : List Value) :
    issues (itemsFrom read n vs)
      = (vs.zipIdx n).flatMap fun p => (issues (read p.1)).map (·.under (.index p.2)) := by
  induction vs generalizing n with
  | nil => rfl
  | cons v rest ih =>
    rw [itemsFrom, issues_ap, issues_map, issues_under, ih, List.zipIdx_cons, List.flatMap_cons]

/-- The issues of a list are those of its items, in their order, each under its place. -/
theorem issues_items (vs : List Value) :
    issues (items read vs)
      = vs.zipIdx.flatMap fun p => (issues (read p.1)).map (·.under (.index p.2)) :=
  issues_itemsFrom 0 vs

end Checked

/-! ### What is read as a list -/

/-- The items of a value that is read as a list. -/
def Value.items? : Value → Option (List Value)
  | .list vs => some vs
  | .set as => some (as.map .atom)
  | .pair a b => some [a, b]
  | _ => none

theorem readList_of_items? {read : Value → Checked α} {v : Value} {vs : List Value}
    (h : v.items? = some vs) : readList read v = Checked.items read vs := by
  cases v with
  | list items => obtain rfl := Option.some.inj h; rfl
  | set members => obtain rfl := Option.some.inj h; rfl
  | pair a b => obtain rfl := Option.some.inj h; rfl
  | atom a => exact nomatch h
  | map entries => exact nomatch h

theorem items?_of_readList {read : Value → Checked α} {v : Value} {as : List α}
    (h : readList read v = .ok as) : ∃ vs, v.items? = some vs := by
  cases v with
  | list items => exact ⟨items, rfl⟩
  | set members => exact ⟨members.map .atom, rfl⟩
  | pair a b => exact ⟨[a, b], rfl⟩
  | atom a => exact nomatch h
  | map entries => exact nomatch h

/-! ### What may be null or missing -/

theorem readNullable_eq_ok {read : Value → Checked α} {v : Value} {o : Option α}
    (hv : v.isNull = false) : readNullable read v = .ok o ↔ ∃ a, read v = .ok a ∧ some a = o := by
  rw [readNullable, hv, if_neg Bool.false_ne_true, map_eq_ok]

/-- An entry that is there is read, whatever stands for a missing one. -/
theorem Field.optional_eq_ok {name : Text} {default : α} {read : Value → Checked α}
    {es : Entries} {v : Value} {a : α} (hv : Entries.get? (.text name) es = some v) :
    Field.optional [name] default read es = .ok a ↔ read v = .ok a := by
  simp only [Field.optional, Field.find?, List.findSome?_cons, hv, Option.map_some,
    Checked.under_eq_ok]

end OfferRules

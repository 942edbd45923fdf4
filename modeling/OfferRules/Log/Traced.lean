import OfferRules.Log.Notice

/-!
# Traced evaluation

An evaluation ends with a value or a fault, and has given notices before that, in order.

## Main definitions

* `Traced` — an outcome with the notices given on the way.
* `Traced.bind` — one evaluation after another: a fault ends both, the notices stay.
* `Traced.allHold`, `Traced.anyHolds` — tests evaluated in order until one decides.
-/

namespace OfferRules

/-- The outcome of an evaluation with the notices given on the way. -/
structure Traced (α : Type) where
  /-- The notices, in order. -/
  notices : List Notice
  /-- The value, or the fault that ended the evaluation. -/
  outcome : Except Fault α

namespace Traced

variable {α β : Type}

/-- A value, without notices. -/
def pure (a : α) : Traced α := ⟨[], .ok a⟩

/-- One evaluation after another. -/
def bind (x : Traced α) (f : α → Traced β) : Traced β :=
  match x.outcome with
  | .ok a => ⟨x.notices ++ (f a).notices, (f a).outcome⟩
  | .error e => ⟨x.notices, .error e⟩

instance : Monad Traced where
  pure := Traced.pure
  bind := Traced.bind

/-- An outcome without notices. -/
def ofExcept (r : Except Fault α) : Traced α := ⟨[], r⟩

/-- A notice. -/
def tell (n : Notice) : Traced Unit := ⟨[n], .ok ()⟩

@[simp] theorem pure_notices (a : α) : (Pure.pure a : Traced α).notices = [] := rfl

@[simp] theorem pure_outcome (a : α) : (Pure.pure a : Traced α).outcome = .ok a := rfl

theorem bind_ok {x : Traced α} {a : α} (h : x.outcome = .ok a) (f : α → Traced β) :
    x >>= f = ⟨x.notices ++ (f a).notices, (f a).outcome⟩ := by
  simp [Bind.bind, Traced.bind, h]

theorem bind_error {x : Traced α} {e : Fault} (h : x.outcome = .error e) (f : α → Traced β) :
    x >>= f = ⟨x.notices, .error e⟩ := by
  simp [Bind.bind, Traced.bind, h]

/-- Whether all items pass a test; the first that fails ends the evaluation. -/
def allHold (test : α → Traced Bool) : List α → Traced Bool
  | [] => pure true
  | a :: rest => do if ← test a then allHold test rest else return false

/-- Whether an item passes a test; the first that passes ends the evaluation. -/
def anyHolds (test : α → Traced Bool) : List α → Traced Bool
  | [] => pure false
  | a :: rest => do if ← test a then return true else anyHolds test rest

end Traced
end OfferRules

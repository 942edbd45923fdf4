/-!
# Tallies

A tally counts how often each of some cases has occurred.  It keeps the cases in the order of
their first occurrence.

## Main definitions

* `Tally`, `Tally.count`, `Tally.add` — a tally, the count of a case, and one more occurrence.

## Main results

* `Tally.count_add` — an occurrence raises the count of its case by one and no other.
* `Tally.mem_of_count` — a case that has occurred is in the tally with its count.
-/

namespace OfferRules

/-- How often each of some cases has occurred, in the order of their first occurrence. -/
abbrev Tally (κ : Type) := List (κ × Nat)

namespace Tally

variable {κ : Type} [DecidableEq κ]

/-- How often a case has occurred. -/
def count (k : κ) : Tally κ → Nat
  | [] => 0
  | (k', n) :: rest => if k' = k then n else count k rest

/-- The tally after one more occurrence of a case. -/
def add (k : κ) : Tally κ → Tally κ
  | [] => [(k, 1)]
  | (k', n) :: rest => if k' = k then (k', n + 1) :: rest else (k', n) :: add k rest

@[simp] theorem count_nil (k : κ) : count k [] = 0 := rfl

theorem count_add (k j : κ) (t : Tally κ) :
    count j (add k t) = count j t + if k = j then 1 else 0 := by
  induction t with
  | nil => by_cases h : k = j <;> simp [add, count, h]
  | cons p rest ih =>
    obtain ⟨k', n⟩ := p
    by_cases hk : k' = k
    · subst hk
      by_cases hj : k' = j <;> simp [add, count, hj]
    · by_cases hj : k' = j
      · subst hj
        simp [add, count, hk, Ne.symm hk]
      · simp [add, count, hk, hj, ih]

/-- A case that has occurred is in the tally with its count. -/
theorem mem_of_count {k : κ} {t : Tally κ} (h : 0 < count k t) :
    (k, count k t) ∈ t := by
  induction t with
  | nil => exact absurd h (Nat.lt_irrefl 0)
  | cons p rest ih =>
    obtain ⟨k', n⟩ := p
    unfold count at h ⊢
    by_cases hk : k' = k
    · rw [if_pos hk, hk]
      exact List.mem_cons_self
    · rw [if_neg hk] at h ⊢
      exact List.mem_cons_of_mem _ (ih h)

/-- The sum of all counts. -/
def total (t : Tally κ) : Nat := t.foldr (fun p n => p.2 + n) 0

end Tally
end OfferRules

import OfferRules.Time.Calendar

/-!
# The days of the calendar

The ordinal of a date is the number of the day when days are counted one after the other from the
start of year 1: through a month, from the end of a month to the next one, which in February depends
on the year, and from the end of a year to the next.

## Main definitions

* `Date.IsValid` — the calendar has a day.
* `Date.Counted` — the number of a day, counted day by day.

## Main results

* `daysBeforeYear_succ` — the length of a year.
* `Date.counted_iff` — **counting days gives their ordinals.**
-/

namespace OfferRules

/-! ### Months and years -/

theorem daysInMonth_pos (y m : Nat) : 0 < daysInMonth y m := by
  unfold daysInMonth
  split
  · split <;> omega
  · split <;> omega

theorem foldr_add {f : Nat → Nat} (l : List Nat) (n : Nat) :
    l.foldr (fun i days => f i + days) n = l.foldr (fun i days => f i + days) 0 + n := by
  induction l with
  | nil => simp
  | cons i rest ih => simp only [List.foldr_cons, ih, Nat.add_assoc]

@[simp] theorem daysBeforeMonth_one (y : Nat) : daysBeforeMonth y 1 = 0 := rfl

/-- A month comes after the days of the one before it. -/
theorem daysBeforeMonth_succ (y m : Nat) :
    daysBeforeMonth y (m + 2) = daysBeforeMonth y (m + 1) + daysInMonth y (m + 1) := by
  unfold daysBeforeMonth
  simp only [Nat.add_sub_cancel, show m + 2 - 1 = m + 1 by omega, List.range_succ,
    List.foldr_append]
  rw [foldr_add]
  simp

/-- December ends a year of 365 days, or of 366. -/
theorem daysBeforeMonth_twelve (y : Nat) :
    daysBeforeMonth y 12 + 31 = if isLeapYear y then 366 else 365 := by
  simp only [daysBeforeMonth_succ, Nat.reduceAdd, daysBeforeMonth_one, daysInMonth]
  cases isLeapYear y <;> simp

/-- The length of a year. -/
theorem daysBeforeYear_succ {y : Nat} (hy : 1 ≤ y) :
    daysBeforeYear (y + 1) = daysBeforeYear y + if isLeapYear y then 366 else 365 := by
  obtain ⟨p, rfl⟩ : ∃ p, y = p + 1 := ⟨y - 1, by omega⟩
  -- every fourth year adds a day, of which every hundredth does not, but every four hundredth does
  have hfour : (p + 1) / 4 = p / 4 + if (p + 1) % 4 = 0 then 1 else 0 := by split <;> omega
  have hcentury : (p + 1) / 100 = p / 100 + if (p + 1) % 100 = 0 then 1 else 0 := by
    split <;> omega
  have hcycle : (p + 1) / 400 = p / 400 + if (p + 1) % 400 = 0 then 1 else 0 := by
    split <;> omega
  have hfew : p / 100 ≤ p / 4 := by omega
  have hmultiple : ((p + 1) % 100 = 0 → (p + 1) % 4 = 0) ∧
      ((p + 1) % 400 = 0 → (p + 1) % 100 = 0) := by omega
  simp only [daysBeforeYear, Nat.add_sub_cancel, hfour, hcentury, hcycle]
  simp only [isLeapYear, Bool.or_eq_true, Bool.and_eq_true, beq_iff_eq, bne_iff_ne]
  generalize p / 4 = a at *
  generalize p / 100 = b at *
  generalize p / 400 = c at *
  split <;> split <;> split <;> split <;> omega

namespace Date

/-- The calendar has a day. -/
def IsValid (d : Date) : Prop :=
  1 ≤ d.year ∧ 1 ≤ d.month ∧ d.month ≤ 12 ∧ 1 ≤ d.day ∧ d.day ≤ daysInMonth d.year d.month

instance (d : Date) : Decidable d.IsValid := by
  unfold IsValid
  infer_instance

/-- The number of a day, counted day by day from 1 January of year 1. -/
inductive Counted : Date → Nat → Prop where
  /-- The first day. -/
  | first : Counted ⟨1, 1, 1⟩ 1
  /-- The next day of a month. -/
  | day {y m d n : Nat} (h : Counted ⟨y, m, d⟩ n) (hd : d < daysInMonth y m) :
      Counted ⟨y, m, d + 1⟩ (n + 1)
  /-- The day after the last one of a month. -/
  | month {y m n : Nat} (h : Counted ⟨y, m, daysInMonth y m⟩ n) (hm : m < 12) :
      Counted ⟨y, m + 1, 1⟩ (n + 1)
  /-- The day after the last one of a year. -/
  | year {y n : Nat} (h : Counted ⟨y, 12, 31⟩ n) : Counted ⟨y + 1, 1, 1⟩ (n + 1)

theorem Counted.spec {d : Date} {n : Nat} (h : d.Counted n) : d.IsValid ∧ d.ordinal = n := by
  induction h with
  | first => decide
  | day h hd ih =>
    simp only [IsValid, ordinal] at ih ⊢
    omega
  | @month y m n h hm ih =>
    -- the month that has passed is counted among the days before the new one
    simp only [IsValid, ordinal] at ih ⊢
    obtain ⟨⟨hy, hpos, -⟩, hn⟩ := ih
    have hdays := daysInMonth_pos y (m + 1)
    obtain ⟨k, rfl⟩ : ∃ k, m = k + 1 := ⟨m - 1, by omega⟩
    rw [daysBeforeMonth_succ]
    omega
  | @year y n h ih =>
    simp only [IsValid, ordinal] at ih ⊢
    obtain ⟨⟨hy, -⟩, hn⟩ := ih
    have hyear := daysBeforeYear_succ hy
    have hdecember := daysBeforeMonth_twelve y
    have hjanuary : 1 ≤ daysInMonth (y + 1) 1 := daysInMonth_pos _ _
    rw [daysBeforeMonth_one]
    omega

/-- Counting through a month. -/
theorem Counted.add_days {y m n : Nat} (h : Counted ⟨y, m, 1⟩ n) {k : Nat}
    (hk : k < daysInMonth y m) : Counted ⟨y, m, k + 1⟩ (n + k) := by
  induction k with
  | zero => exact h
  | succ k ih => exact .day (ih (by omega)) hk

/-- Counting from the start of a year to that of a month. -/
theorem Counted.add_months {y n : Nat} (h : Counted ⟨y, 1, 1⟩ n) {m : Nat} (hm : m < 12) :
    Counted ⟨y, m + 1, 1⟩ (n + daysBeforeMonth y (m + 1)) := by
  induction m with
  | zero => exact h
  | succ m ih =>
    have hpos := daysInMonth_pos y (m + 1)
    have hlast := (ih (by omega)).add_days (show daysInMonth y (m + 1) - 1 < _ by omega)
    rw [Nat.sub_add_cancel hpos] at hlast
    have hnext := Counted.month hlast hm
    rw [daysBeforeMonth_succ]
    rwa [show n + daysBeforeMonth y (m + 1) + (daysInMonth y (m + 1) - 1) + 1
      = n + (daysBeforeMonth y (m + 1) + daysInMonth y (m + 1)) by omega] at hnext

/-- Counting from the first day to the start of a year. -/
theorem counted_newYear (y : Nat) : Counted ⟨y + 1, 1, 1⟩ (daysBeforeYear (y + 1) + 1) := by
  induction y with
  | zero => exact .first
  | succ y ih =>
    have hlength := daysBeforeMonth_twelve (y + 1)
    have hmonth : daysInMonth (y + 1) 12 = 31 := rfl
    have hdecember := (@Counted.add_months (y + 1) _ ih 11 (by omega)).add_days
      (show 30 < daysInMonth (y + 1) 12 by omega)
    have hnext := Counted.year hdecember
    have hyear := @daysBeforeYear_succ (y + 1) (by omega)
    rw [hyear]
    simp only [Nat.reduceAdd] at hnext
    rwa [show daysBeforeYear (y + 1) + 1 + daysBeforeMonth (y + 1) 12 + 30 + 1
      = daysBeforeYear (y + 1) + (if isLeapYear (y + 1) then 366 else 365) + 1 by omega] at hnext

/-- **Counting days gives their ordinals.** -/
theorem counted_iff {d : Date} {n : Nat} : d.Counted n ↔ d.IsValid ∧ d.ordinal = n := by
  refine ⟨Counted.spec, ?_⟩
  rintro ⟨⟨hy, hm, hm', hd, hd'⟩, rfl⟩
  obtain ⟨y, m, d⟩ := d
  obtain ⟨y, rfl⟩ : ∃ k, y = k + 1 := ⟨y - 1, by simp only at hy; omega⟩
  obtain ⟨m, rfl⟩ : ∃ k, m = k + 1 := ⟨m - 1, by simp only at hm; omega⟩
  obtain ⟨d, rfl⟩ : ∃ k, d = k + 1 := ⟨d - 1, by simp only at hd; omega⟩
  simp only at hm' hd'
  have hday := ((counted_newYear y).add_months (show m < 12 by omega)).add_days
    (show d < _ by omega)
  simp only [ordinal]
  rwa [show daysBeforeYear (y + 1) + 1 + daysBeforeMonth (y + 1) (m + 1) + d
    = daysBeforeYear (y + 1) + daysBeforeMonth (y + 1) (m + 1) + (d + 1) by omega] at hday

end Date
end OfferRules

import Mathlib.Data.List.TakeWhile
import Mathlib.Data.Rat.Floor
import Mathlib.Tactic.FieldSimp
import Mathlib.Tactic.Linarith
import Mathlib.Tactic.Positivity
import OfferRules.Proofs.CalendarDays
import OfferRules.Time.Iso8601

/-!
# The spellings of a moment

A moment has many spellings: a date with a time, with or without seconds and a fraction of them, at
any offset from universal time, so that the date may be that of the day before or after, or a date
alone for its midnight.  The grammar says which moment each of them denotes, on the line of
universal time, and a text is read as the moment that it denotes, to the microsecond.

## Main definitions

* `Iso8601.Digits`, `Iso8601.Field` — the number that digits write.
* `Iso8601.OnDate`, `Iso8601.Seconds`, `Iso8601.Zone` — the parts of a spelling.
* `Iso8601.Spells` — a date and the seconds after its midnight, in universal time.
* `Iso8601.Denotes` — the moment of a spelling, in seconds after the start of 1970.

## Main results

* `Moment.ofText_of_denotes` — **a spelling is read as its moment.**
* `Moment.exists_denotes_of_ofText` — **what is read in one of the two forms is a spelling.**
-/

namespace OfferRules

namespace Iso8601

/-! ### Digits -/

/-- The byte of a digit. -/
def digitByte (d : Nat) : UInt8 := UInt8.ofNat (0x30 + d)

theorem byteDigit?_eq_some {b : UInt8} {d : Nat} :
    byteDigit? b = some d ↔ d < 10 ∧ b = digitByte d := by
  unfold byteDigit? digitByte
  constructor
  · intro h
    split at h
    · next hb =>
      simp only [Bool.and_eq_true, decide_eq_true_eq] at hb
      obtain rfl := Option.some.inj h
      refine ⟨by omega, UInt8.toNat_inj.mp ?_⟩
      simp
      omega
    · cases h
  · rintro ⟨hd, rfl⟩
    simp
    omega

/-- The number that digits write. -/
inductive Digits : List UInt8 → Nat → Prop where
  /-- No digits write zero. -/
  | nil : Digits [] 0
  /-- One more digit. -/
  | snoc {bs : List UInt8} {n d : Nat} (h : Digits bs n) (hd : d < 10) :
      Digits (bs ++ [digitByte d]) (10 * n + d)

theorem number?_concat (bs : List UInt8) (b : UInt8) :
    number? (bs ++ [b]) = (number? bs).bind fun n => (byteDigit? b).map (10 * n + ·) := by
  rw [number?, List.foldl_append]
  rfl

theorem number?_eq_some {bs : List UInt8} {n : Nat} : number? bs = some n ↔ Digits bs n := by
  constructor
  · intro h
    induction bs using List.reverseRecOn generalizing n with
    | nil =>
      obtain rfl : 0 = n := Option.some.inj h
      exact .nil
    | append_singleton bs b ih =>
      rw [number?_concat, Option.bind_eq_some_iff] at h
      obtain ⟨m, hm, h⟩ := h
      obtain ⟨d, hd, rfl⟩ := Option.map_eq_some_iff.mp h
      obtain ⟨hlt, rfl⟩ := byteDigit?_eq_some.mp hd
      exact .snoc (ih hm) hlt
  · intro h
    induction h with
    | nil => rfl
    | snoc h hd ih => rw [number?_concat, ih, byteDigit?_eq_some.mpr ⟨hd, rfl⟩]; rfl

theorem Digits.isSome {bs : List UInt8} {n : Nat} (h : Digits bs n) :
    ∀ b ∈ bs, (byteDigit? b).isSome = true := by
  induction h with
  | nil => nofun
  | snoc h hd ih =>
    intro b hb
    rcases List.mem_append.mp hb with hb | hb
    · exact ih b hb
    · obtain rfl := List.mem_singleton.mp hb
      rw [byteDigit?_eq_some.mpr ⟨hd, rfl⟩]
      rfl

theorem exists_digits {bs : List UInt8} (h : ∀ b ∈ bs, (byteDigit? b).isSome = true) :
    ∃ n, Digits bs n := by
  induction bs using List.reverseRecOn with
  | nil => exact ⟨0, .nil⟩
  | append_singleton bs b ih =>
    obtain ⟨n, hn⟩ := ih fun b hb => h b (List.mem_append_left _ hb)
    obtain ⟨d, hd⟩ := Option.isSome_iff_exists.mp (h b (by simp))
    obtain ⟨hlt, rfl⟩ := byteDigit?_eq_some.mp hd
    exact ⟨_, .snoc hn hlt⟩

theorem Digits.lt {bs : List UInt8} {n : Nat} (h : Digits bs n) : n < 10 ^ bs.length := by
  induction h with
  | nil => decide
  | @snoc bs n d h hd ih =>
    rw [List.length_append, List.length_singleton, pow_succ]
    omega

/-- Digits may be cut: the first ones count for as many tens as there are others. -/
theorem Digits.split {as bs : List UInt8} {n : Nat} (h : Digits (as ++ bs) n) :
    ∃ a b, Digits as a ∧ Digits bs b ∧ n = a * 10 ^ bs.length + b := by
  induction bs using List.reverseRecOn generalizing n with
  | nil => exact ⟨n, 0, by simpa using h, .nil, by simp⟩
  | append_singleton bs c ih =>
    rw [← List.append_assoc, ← number?_eq_some, number?_concat, Option.bind_eq_some_iff] at h
    obtain ⟨m, hm, h⟩ := h
    obtain ⟨d, hd, rfl⟩ := Option.map_eq_some_iff.mp h
    obtain ⟨hlt, rfl⟩ := byteDigit?_eq_some.mp hd
    obtain ⟨a, b, ha, hb, rfl⟩ := ih (number?_eq_some.mp hm)
    refine ⟨a, 10 * b + d, ha, .snoc hb hlt, ?_⟩
    rw [List.length_append, List.length_singleton, pow_succ]
    ring

/-- A number written in so many digits. -/
def Field (width : Nat) (bs : List UInt8) (n : Nat) : Prop := bs.length = width ∧ Digits bs n

theorem field_of_number? {bs : List UInt8} {n : Nat} (h : number? bs = some n) :
    Field bs.length bs n :=
  ⟨rfl, number?_eq_some.mp h⟩

theorem twoDigits?_eq_some {bs rest : List UInt8} {n : Nat} :
    twoDigits? bs = some (n, rest) ↔ ∃ ds, Field 2 ds n ∧ bs = ds ++ rest := by
  constructor
  · intro h
    unfold twoDigits? at h
    split at h
    · next a b rest' =>
      obtain ⟨m, hm, heq⟩ := Option.map_eq_some_iff.mp h
      obtain ⟨rfl, rfl⟩ := Prod.mk.inj heq
      exact ⟨[a, b], ⟨rfl, number?_eq_some.mp hm⟩, rfl⟩
    · cases h
  · rintro ⟨ds, ⟨hlength, hds⟩, rfl⟩
    obtain ⟨a, b, rfl⟩ := List.length_eq_two.mp hlength
    rw [← number?_eq_some] at hds
    simp [twoDigits?, hds]

/-! ### Dates -/

/-- Bytes write a date: year, month and day, parted by hyphens. -/
inductive OnDate : List UInt8 → Date → Prop where
  /-- The three fields. -/
  | fields {ys ms ds : List UInt8} {y m d : Nat} (hy : Field 4 ys y) (hm : Field 2 ms m)
      (hd : Field 2 ds d) : OnDate (ys ++ 0x2d :: ms ++ 0x2d :: ds) ⟨y, m, d⟩

/-- A month, and a day that it has. -/
def HasDay (d : Date) : Prop :=
  1 ≤ d.month ∧ d.month ≤ 12 ∧ 1 ≤ d.day ∧ d.day ≤ daysInMonth d.year d.month

/-- What the ten bytes of a date and those after it are read as. -/
theorem date_cons_eq_ok {y1 y2 y3 y4 s1 m1 m2 s2 d1 d2 : UInt8} {rest rest' : List UInt8}
    {d : Date} :
    date (y1 :: y2 :: y3 :: y4 :: s1 :: m1 :: m2 :: s2 :: d1 :: d2 :: rest) = .ok (d, rest') ↔
      (number? [y1, y2, y3, y4] = some d.year ∧ number? [m1, m2] = some d.month ∧
        number? [d1, d2] = some d.day) ∧ s1 = 0x2d ∧ s2 = 0x2d ∧ HasDay d ∧ rest = rest' := by
  obtain ⟨y, m, n⟩ := d
  cases hy : number? [y1, y2, y3, y4] with
  | none => simp [date, hy]
  | some year =>
    cases hm : number? [m1, m2] with
    | none => by_cases hs1 : s1 = 0x2d <;> simp [date, hy, hm, hs1]
    | some month =>
      cases hd : number? [d1, d2] with
      | none => by_cases hs1 : s1 = 0x2d <;> by_cases hs2 : s2 = 0x2d <;> simp [date, *]
      | some day =>
        simp only [date, hy, hm, hd, HasDay]
        grind

theorem date_eq_ok {bs rest : List UInt8} {d : Date} :
    date bs = .ok (d, rest) ↔ ∃ ds, OnDate ds d ∧ HasDay d ∧ bs = ds ++ rest := by
  constructor
  · intro h
    unfold date at h
    split at h
    · next y1 y2 y3 y4 s1 m1 m2 s2 d1 d2 rest' =>
      obtain ⟨⟨hy, hm, hd⟩, rfl, rfl, hday, rfl⟩ := date_cons_eq_ok.mp h
      refine ⟨[y1, y2, y3, y4] ++ 0x2d :: [m1, m2] ++ 0x2d :: [d1, d2], ?_, hday, rfl⟩
      exact .fields ⟨rfl, number?_eq_some.mp hy⟩ ⟨rfl, number?_eq_some.mp hm⟩
        ⟨rfl, number?_eq_some.mp hd⟩
    · cases h
  · rintro ⟨_, ⟨⟨hylength, hy⟩, ⟨hmlength, hm⟩, ⟨hdlength, hd⟩⟩, hday, rfl⟩
    obtain ⟨m1, m2, rfl⟩ := List.length_eq_two.mp hmlength
    obtain ⟨d1, d2, rfl⟩ := List.length_eq_two.mp hdlength
    obtain ⟨y1, y2, y3, y4, rfl⟩ := List.length_eq_four.mp hylength
    exact date_cons_eq_ok.mpr ⟨⟨number?_eq_some.mpr hy, number?_eq_some.mpr hm,
      number?_eq_some.mpr hd⟩, rfl, rfl, hday, rfl⟩

/-! ### Fractions of a second -/

/-- The first six digits of a fraction are its microseconds. -/
theorem micros_eq {v a b k r : Nat} (hv : v = a * 10 ^ r + b) (hb : b < 10 ^ r) (hk : k ≤ 6)
    (hlong : k = 6 ∨ r = 0) : v * 10 ^ 6 / 10 ^ (k + r) = a * 10 ^ (6 - k) := by
  have hsplit : 10 ^ 6 = 10 ^ k * 10 ^ (6 - k) := by rw [← pow_add, Nat.add_sub_cancel' hk]
  have hcancel : v * 10 ^ 6 / 10 ^ (k + r) = v * 10 ^ (6 - k) / 10 ^ r := by
    rw [hsplit, pow_add, ← Nat.mul_assoc, Nat.mul_comm v, Nat.mul_assoc]
    exact Nat.mul_div_mul_left _ _ (Nat.pow_pos (by omega))
  rw [hcancel, hv]
  rcases hlong with rfl | rfl
  · rw [Nat.sub_self, pow_zero, Nat.mul_one, Nat.mul_one, Nat.add_comm,
      Nat.add_mul_div_right _ _ (Nat.pow_pos (by omega)), Nat.div_eq_of_lt hb, Nat.zero_add]
  · obtain rfl : b = 0 := by simpa using hb
    simp

theorem takeWhile_digits {ds rest : List UInt8} {v : Nat} (h : Digits ds v)
    (hrest : ∀ b ∈ rest.head?, byteDigit? b = none) :
    (ds ++ rest).takeWhile (fun b => (byteDigit? b).isSome) = ds := by
  rw [List.takeWhile_append_of_pos h.isSome]
  cases rest with
  | nil => simp
  | cons b rest =>
    have hb : byteDigit? b = none := hrest b rfl
    simp [hb]

/-- Digits that are all of them are read as their microseconds. -/
theorem fraction?_of_digits {ds rest : List UInt8} {v : Nat} (hne : ds ≠ []) (h : Digits ds v)
    (hrest : ∀ b ∈ rest.head?, byteDigit? b = none) :
    fraction? (ds ++ rest) = some (v * 10 ^ 6 / 10 ^ ds.length, rest) := by
  have hcut : ds.take 6 ++ ds.drop 6 = ds := List.take_append_drop 6 ds
  obtain ⟨a, b, ha, hb, hv⟩ := Digits.split (hcut.symm ▸ h)
  have hmicros := @micros_eq v a b (ds.take 6).length (ds.drop 6).length hv hb.lt (by simp)
    (by simp only [List.length_take, List.length_drop]; omega)
  rw [← List.length_append, hcut] at hmicros
  unfold fraction?
  simp only [takeWhile_digits h hrest]
  rw [if_neg (by simpa using hne), number?_eq_some.mpr ha, List.drop_left, hmicros]
  rfl

/-- What is read as a fraction are digits. -/
theorem exists_of_fraction? {bs rest : List UInt8} {micro : Nat}
    (h : fraction? bs = some (micro, rest)) :
    ∃ ds v, ds ≠ [] ∧ Digits ds v ∧ bs = ds ++ rest ∧ micro = v * 10 ^ 6 / 10 ^ ds.length := by
  have hbs : bs.takeWhile (fun b => (byteDigit? b).isSome)
      ++ bs.dropWhile (fun b => (byteDigit? b).isSome) = bs := List.takeWhile_append_dropWhile
  obtain ⟨v, hv⟩ : ∃ v, Digits (bs.takeWhile fun b => (byteDigit? b).isSome) v :=
    exists_digits fun b => List.mem_takeWhile_imp
  have hne : bs.takeWhile (fun b => (byteDigit? b).isSome) ≠ [] := by
    intro hnil
    simp [fraction?, hnil] at h
  have hrest : ∀ b ∈ (bs.dropWhile fun b => (byteDigit? b).isSome).head?, byteDigit? b = none := by
    intro b hb
    have hnot := List.head?_dropWhile_not (fun b => (byteDigit? b).isSome) bs
    rw [Option.mem_def.mp hb] at hnot
    simpa using hnot
  rw [← hbs, fraction?_of_digits hne hv hrest] at h
  obtain ⟨rfl, rfl⟩ := Prod.mk.inj (Option.some.inj h)
  exact ⟨_, v, hne, hv, hbs.symm, rfl⟩

theorem floor_micros (v k : Nat) :
    ((v * 10 ^ 6 / 10 ^ k : Nat) : ℤ) = ⌊(v / 10 ^ k : ℚ) * 10 ^ 6⌋ := by
  have hcast : (v / 10 ^ k : ℚ) * 10 ^ 6 = ((v * 10 ^ 6 : Nat) : ℚ) / ((10 ^ k : Nat) : ℚ) := by
    push_cast
    ring
  rw [hcast, Rat.floor_natCast_div_natCast]
  exact Int.natCast_div _ _

/-! ### Times -/

/-- Bytes write a second, maybe with a fraction of it, or neither. -/
inductive Seconds : List UInt8 → Nat → ℚ → Prop where
  /-- No second, which counts as zero. -/
  | absent : Seconds [] 0 0
  /-- A second. -/
  | whole {ss : List UInt8} {s : Nat} (hs : Field 2 ss s) (hlt : s < 60) : Seconds (0x3a :: ss) s 0
  /-- A second and a fraction of it, after a point or a comma. -/
  | fractional {ss ds : List UInt8} {mark : UInt8} {s v : Nat} (hs : Field 2 ss s) (hlt : s < 60)
      (hmark : mark = 0x2e ∨ mark = 0x2c) (hne : ds ≠ []) (hds : Digits ds v) :
      Seconds (0x3a :: ss ++ mark :: ds) s (v / 10 ^ ds.length)

/-- Bytes write an hour, a minute and the second in it. -/
inductive OnClock : List UInt8 → Nat → Nat → Nat → ℚ → Prop where
  /-- The fields. -/
  | fields {hs ms ss : List UInt8} {h m s : Nat} {q : ℚ} (hh : Field 2 hs h) (hlt : h < 24)
      (hm : Field 2 ms m) (hlt' : m < 60) (hss : Seconds ss s q) :
      OnClock (hs ++ 0x3a :: ms ++ ss) h m s q

/-- What goes on after a time does not go on with it. -/
def EndsTime (rest : List UInt8) : Prop :=
  ∀ b ∈ rest.head?, b ≠ 0x3a ∧ b ≠ 0x2e ∧ b ≠ 0x2c ∧ byteDigit? b = none

/-- The second at the front with its microseconds, or zero if there is none, and the bytes after
it. -/
def seconds? : List UInt8 → Option ((Nat × Nat) × List UInt8)
  | 0x3a :: rest =>
    (twoDigits? rest).bind fun p =>
      if 60 ≤ p.1 then none
      else match p.2 with
        | mark :: more =>
          if mark == 0x2e || mark == 0x2c then (fraction? more).map fun q => ((p.1, q.1), q.2)
          else some ((p.1, 0), mark :: more)
        | [] => some ((p.1, 0), [])
  | rest => some ((0, 0), rest)

/-- A time is an hour and a minute, and then the second. -/
theorem time?_eq_bind (bs : List UInt8) :
    time? bs = (twoDigits? bs).bind fun p =>
      match p.2 with
      | 0x3a :: rest =>
        (twoDigits? rest).bind fun q =>
          if 24 ≤ p.1 ∨ 60 ≤ q.1 then none
          else (seconds? q.2).map fun r => ((p.1, q.1, r.1), r.2)
      | _ => none := by
  unfold time?
  refine Option.bind_congr fun ⟨hour, more⟩ _ => ?_
  cases more with
  | nil => rfl
  | cons colon more =>
    by_cases hcolon : colon = 0x3a
    · subst hcolon
      refine Option.bind_congr fun ⟨minute, more⟩ _ => ?_
      dsimp only
      split
      · rfl
      · split
        · rw [seconds?, Option.map_bind]
          refine Option.bind_congr fun ⟨second, more⟩ _ => ?_
          dsimp only [Function.comp_apply]
          split
          · rfl
          · cases more with
            | nil => rfl
            | cons mark more =>
              dsimp only
              split
              · rw [Option.map_map]
                exact Option.map_eq_bind.symm
              · rfl
        · next hnone =>
          rw [seconds?]
          · rfl
          · exact hnone
    · simp [hcolon]

theorem seconds?_of_seconds {bs rest : List UInt8} {s : Nat} {q : ℚ} (h : Seconds bs s q)
    (hrest : EndsTime rest) :
    ∃ micro : Nat, seconds? (bs ++ rest) = some ((s, micro), rest) ∧
      (micro : ℤ) = ⌊q * 10 ^ 6⌋ := by
  unfold seconds?
  cases h with
  | absent =>
    refine ⟨0, ?_, by simp⟩
    rw [List.nil_append]
    split
    · next more =>
      obtain ⟨hcolon, -⟩ := hrest 0x3a rfl
      contradiction
    · rfl
  | whole hs hlt =>
    have hsecond := fun more => twoDigits?_eq_some.mpr ⟨_, hs, @rfl _ (_ ++ more)⟩
    refine ⟨0, ?_, by simp⟩
    simp only [List.cons_append, hsecond, Option.bind_some, if_neg (Nat.not_le_of_lt hlt)]
    cases rest with
    | nil => rfl
    | cons b rest =>
      obtain ⟨-, hpoint, hcomma, -⟩ := hrest b rfl
      simp [hpoint, hcomma]
  | @fractional ss ds mark s v hs hlt hmark hne hds =>
    have hsecond := fun more => twoDigits?_eq_some.mpr ⟨_, hs, @rfl _ (_ ++ more)⟩
    have hfraction := fraction?_of_digits hne hds fun b hb => (hrest b hb).2.2.2
    have hmark' : (mark == 0x2e || mark == 0x2c) = true := by simpa using hmark
    refine ⟨v * 10 ^ 6 / 10 ^ ds.length, ?_, floor_micros v ds.length⟩
    simp only [List.cons_append, List.append_assoc, hsecond, Option.bind_some,
      if_neg (Nat.not_le_of_lt hlt), if_pos hmark', hfraction]
    rfl

/-- What is read as a second is one. -/
theorem exists_of_seconds? {bs rest : List UInt8} {s micro : Nat}
    (h : seconds? bs = some ((s, micro), rest)) :
    ∃ cs q, Seconds cs s q ∧ bs = cs ++ rest ∧ (micro : ℤ) = ⌊q * 10 ^ 6⌋ := by
  unfold seconds? at h
  split at h
  · rw [Option.bind_eq_some_iff] at h
    obtain ⟨⟨s', more⟩, hsecond, h⟩ := h
    obtain ⟨ss, hss, rfl⟩ := twoDigits?_eq_some.mp hsecond
    dsimp only at h
    split at h
    · cases h
    · next hsixty =>
      have hlt : s' < 60 := Nat.lt_of_not_le hsixty
      split at h
      · next mark more =>
        split at h
        · next hmark =>
          obtain ⟨⟨micro', more'⟩, hfraction, heq⟩ := Option.map_eq_some_iff.mp h
          obtain ⟨ds, v, hne, hds, rfl, rfl⟩ := exists_of_fraction? hfraction
          cases heq
          have hmark' : mark = 0x2e ∨ mark = 0x2c := by simpa using hmark
          exact ⟨_, _, .fractional hss hlt hmark' hne hds, by simp, floor_micros v ds.length⟩
        · cases h
          exact ⟨_, 0, .whole hss hlt, rfl, by simp⟩
      · cases h
        exact ⟨_, 0, .whole hss hlt, rfl, by simp⟩
  · cases h
    exact ⟨[], 0, .absent, rfl, by simp⟩

theorem time?_of_onClock {bs rest : List UInt8} {h m s : Nat} {q : ℚ} (hbs : OnClock bs h m s q)
    (hrest : EndsTime rest) :
    ∃ micro : Nat, time? (bs ++ rest) = some ((h, m, s, micro), rest) ∧
      (micro : ℤ) = ⌊q * 10 ^ 6⌋ := by
  obtain ⟨hh, hlt, hm, hlt', hss⟩ := hbs
  have hhour := fun more => twoDigits?_eq_some.mpr ⟨_, hh, @rfl _ (_ ++ more)⟩
  have hminute := fun more => twoDigits?_eq_some.mpr ⟨_, hm, @rfl _ (_ ++ more)⟩
  have hrange : ¬ (24 ≤ h ∨ 60 ≤ m) := by omega
  obtain ⟨micro, hsecond, hmicro⟩ := seconds?_of_seconds hss hrest
  refine ⟨micro, ?_, hmicro⟩
  rw [time?_eq_bind]
  simp only [List.append_assoc, List.cons_append, hhour, hminute, Option.bind_some,
    if_neg hrange, hsecond, Option.map_some]

/-- What is read as a time is one. -/
theorem exists_of_time? {bs rest : List UInt8} {h m s micro : Nat}
    (hread : time? bs = some ((h, m, s, micro), rest)) :
    ∃ cs q, OnClock cs h m s q ∧ bs = cs ++ rest ∧ (micro : ℤ) = ⌊q * 10 ^ 6⌋ := by
  rw [time?_eq_bind, Option.bind_eq_some_iff] at hread
  obtain ⟨⟨h', more⟩, hhour, hread⟩ := hread
  obtain ⟨hs, hh, rfl⟩ := twoDigits?_eq_some.mp hhour
  dsimp only at hread
  split at hread
  · rw [Option.bind_eq_some_iff] at hread
    obtain ⟨⟨m', more'⟩, hminute, hread⟩ := hread
    obtain ⟨ms, hm, rfl⟩ := twoDigits?_eq_some.mp hminute
    dsimp only at hread
    split at hread
    · cases hread
    · next hrange =>
      have hlt : h' < 24 ∧ m' < 60 := by omega
      obtain ⟨⟨⟨s', micro'⟩, more'⟩, hsecond, heq⟩ := Option.map_eq_some_iff.mp hread
      obtain ⟨ss, q, hss, rfl, hmicro⟩ := exists_of_seconds? hsecond
      cases heq
      exact ⟨_, q, .fields hh hlt.1 hm hlt.2 hss, by simp, hmicro⟩
  · cases hread

/-! ### Offsets -/

/-- Bytes write hours and minutes, less than a day of them, maybe parted by a colon. -/
inductive Span : List UInt8 → Nat → Prop where
  /-- The fields. -/
  | fields {hs ms colon : List UInt8} {h m : Nat} (hh : Field 2 hs h) (hlt : h < 24)
      (hm : Field 2 ms m) (hlt' : m < 60) (hcolon : colon = [] ∨ colon = [0x3a]) :
      Span (hs ++ colon ++ ms) (60 * h + m)

/-- Bytes write an offset in minutes, or none. -/
inductive Zone : List UInt8 → Option ℤ → Prop where
  /-- No offset. -/
  | absent : Zone [] none
  /-- The letter of universal time, capital or small. -/
  | universal {b : UInt8} (hb : b = 0x5a ∨ b = 0x7a) : Zone [b] (some 0)
  /-- Ahead of universal time. -/
  | ahead {bs : List UInt8} {n : Nat} (h : Span bs n) : Zone (0x2b :: bs) (some n)
  /-- Behind universal time, with a hyphen or the minus of mathematics. -/
  | behind {sign bs : List UInt8} {n : Nat} (hsign : sign = [0x2d] ∨ sign = [0xe2, 0x88, 0x92])
      (h : Span bs n) : Zone (sign ++ bs) (some (-n))

theorem signedOffset?_of_span {bs : List UInt8} {n : Nat} (negative : Bool) (h : Span bs n) :
    signedOffset? negative bs = some (if negative then -(n : ℤ) else n) := by
  obtain @⟨hs, ms, colon, h, m, hh, hlt, hm, hlt', hcolon⟩ := h
  have hhour : twoDigits? (hs ++ (colon ++ ms)) = some (h, colon ++ ms) :=
    twoDigits?_eq_some.mpr ⟨hs, hh, rfl⟩
  have hminute : twoDigits? ms = some (m, []) := twoDigits?_eq_some.mpr ⟨ms, hm, by simp⟩
  have hrange : ¬ (60 ≤ m ∨ 1440 ≤ 60 * h + m ∨ (!([] : List UInt8).isEmpty) = true) := by
    simp
    omega
  simp only [signedOffset?, List.append_assoc, hhour, Option.bind_eq_bind, Option.bind_some]
  refine Option.bind_eq_some_iff.mpr ⟨(m, []), ?_, ?_⟩
  · rcases hcolon with rfl | rfl
    · rw [List.nil_append]
      split
      · -- a colon is no digit
        next rest =>
        have hcolon := hm.2.isSome 0x3a List.mem_cons_self
        cases hcolon
      · exact hminute
    · exact hminute
  · dsimp only
    rw [if_neg hrange]
    cases negative <;> simp

theorem exists_of_signedOffset? {bs : List UInt8} {negative : Bool} {k : ℤ}
    (h : signedOffset? negative bs = some k) :
    ∃ n : Nat, Span bs n ∧ k = if negative then -(n : ℤ) else n := by
  simp only [signedOffset?, Option.bind_eq_bind, Option.bind_eq_some_iff] at h
  obtain ⟨⟨hours, more⟩, hhour, ⟨minutes, more'⟩, hminute, h⟩ := h
  obtain ⟨hs, hh, rfl⟩ := twoDigits?_eq_some.mp hhour
  obtain ⟨ms, hm, hmore⟩ := twoDigits?_eq_some.mp hminute
  dsimp only at h
  split at h
  · cases h
  · next hrange =>
    obtain rfl : more' = [] := by
      cases more' with
      | nil => rfl
      | cons b rest => exact absurd (Or.inr (Or.inr rfl)) hrange
    have hlt : hours < 24 ∧ minutes < 60 := by omega
    rw [List.append_nil] at hmore
    obtain ⟨colon, hcolon, rfl⟩ : ∃ colon, (colon = [] ∨ colon = [0x3a]) ∧ more = colon ++ ms := by
      split at hmore
      · next hcolon => exact ⟨[0x3a], Or.inr rfl, hcolon.trans (congrArg (0x3a :: ·) hmore)⟩
      · exact ⟨[], Or.inl rfl, hmore⟩
    refine ⟨60 * hours + minutes, ?_, ?_⟩
    · rw [← List.append_assoc]
      exact .fields hh hlt.1 hm hlt.2 hcolon
    · cases negative <;> exact (Option.some.inj h).symm

theorem Zone.endsTime {zs : List UInt8} {z : Option ℤ} (h : Zone zs z) : EndsTime zs := by
  intro b hb
  cases h with
  | absent => cases hb
  | universal hb' =>
    obtain rfl := Option.some.inj hb
    rcases hb' with rfl | rfl <;> decide
  | ahead h =>
    obtain rfl := Option.some.inj hb
    decide
  | behind hsign h =>
    rcases hsign with rfl | rfl
    · obtain rfl := Option.some.inj hb
      decide
    · obtain rfl := Option.some.inj hb
      decide

theorem offset?_of_zone {zs : List UInt8} {z : Option ℤ} (h : Zone zs z) : offset? zs = some z := by
  cases h with
  | absent => rfl
  | universal hb => rcases hb with rfl | rfl <;> rfl
  | ahead h => exact congrArg (Option.map some) (signedOffset?_of_span false h)
  | behind hsign h =>
    rcases hsign with rfl | rfl
    · exact congrArg (Option.map some) (signedOffset?_of_span true h)
    · exact congrArg (Option.map some) (signedOffset?_of_span true h)

theorem exists_of_map_signedOffset? {bs : List UInt8} {negative : Bool} {z : Option ℤ}
    (h : (signedOffset? negative bs).map some = some z) :
    ∃ n : Nat, Span bs n ∧ z = some (if negative then -(n : ℤ) else n) := by
  obtain ⟨k, hk, rfl⟩ := Option.map_eq_some_iff.mp h
  obtain ⟨n, hn, rfl⟩ := exists_of_signedOffset? hk
  exact ⟨n, hn, rfl⟩

theorem zone_of_offset? {bs : List UInt8} {z : Option ℤ} (h : offset? bs = some z) : Zone bs z := by
  unfold offset? at h
  split at h
  · cases h
    exact .absent
  · cases h
    exact .universal (Or.inl rfl)
  · cases h
    exact .universal (Or.inr rfl)
  · obtain ⟨n, hn, rfl⟩ := exists_of_map_signedOffset? h
    exact .ahead hn
  · obtain ⟨n, hn, rfl⟩ := exists_of_map_signedOffset? h
    exact .behind (Or.inl rfl) hn
  · obtain ⟨n, hn, rfl⟩ := exists_of_map_signedOffset? h
    exact .behind (Or.inr rfl) hn
  · cases h

/-! ### Spellings -/

/-- Bytes spell a moment by a date that the calendar has and the seconds after its midnight, in
universal time: these may be negative, or more than a day has, by the offset. -/
inductive Spells : List UInt8 → Date → ℚ → Prop where
  /-- A date alone stands for its midnight. -/
  | midnight {ds : List UInt8} {d : Date} (hds : OnDate ds d) (hd : d.IsValid) : Spells ds d 0
  /-- A date, a separator, a time and an offset. -/
  | reading {ds cs zs : List UInt8} {d : Date} {separator : UInt8} {h m s : Nat} {q : ℚ}
      {z : Option ℤ} (hds : OnDate ds d) (hd : d.IsValid)
      (hseparator : separator ∈ [0x54, 0x74, 0x20, 0x5f]) (hcs : OnClock cs h m s q)
      (hzs : Zone zs z) :
      Spells (ds ++ separator :: cs ++ zs) d (h * 3600 + m * 60 + s + q - z.getD 0 * 60)

/-- Bytes spell a moment, given in seconds after the start of 1970 in universal time; days are
counted one by one. -/
def Denotes (bs : List UInt8) (q : ℚ) : Prop :=
  ∃ d seconds n, Spells bs d seconds ∧ d.Counted n ∧ q = (n - epochOrdinal) * 86400 + seconds

/-- The moment of a date with a time, from its parts. -/
theorem Denotes.of_parts {bs ds cs zs : List UInt8} {d : Date} {separator : UInt8} {h m s : Nat}
    {q : ℚ} {z : Option ℤ} (hbs : ds ++ separator :: cs ++ zs = bs) (hds : OnDate ds d)
    (hd : d.IsValid) (hseparator : separator ∈ [0x54, 0x74, 0x20, 0x5f])
    (hcs : OnClock cs h m s q) (hzs : Zone zs z) :
    Denotes bs ((d.ordinal - epochOrdinal) * 86400
      + (h * 3600 + m * 60 + s + q - z.getD 0 * 60)) :=
  ⟨d, _, d.ordinal, hbs ▸ .reading hds hd hseparator hcs hzs, Date.counted_iff.mpr ⟨hd, rfl⟩, rfl⟩

theorem hasDay_of_isValid {d : Date} (h : d.IsValid) : HasDay d := h.2

/-- A date with a time is read as what its parts say. -/
theorem dateTime?_of_parts {ds cs zs : List UInt8} {d : Date} {separator : UInt8} {h m s : Nat}
    {q : ℚ} {z : Option ℤ} (hds : OnDate ds d) (hd : HasDay d)
    (hseparator : separator ∈ [0x54, 0x74, 0x20, 0x5f]) (hcs : OnClock cs h m s q)
    (hzs : Zone zs z) :
    ∃ micro : Nat, dateTime? (ds ++ separator :: cs ++ zs)
        = some ⟨d, h, m, s, micro, z.map (· * microsPerMinute)⟩ ∧
      (micro : ℤ) = ⌊q * 10 ^ 6⌋ := by
  obtain ⟨micro, htime, hmicro⟩ := time?_of_onClock hcs hzs.endsTime
  have hdate : date (ds ++ separator :: (cs ++ zs)) = .ok (d, separator :: (cs ++ zs)) :=
    date_eq_ok.mpr ⟨ds, hds, hd, rfl⟩
  have hone : (separator == 0x54 || separator == 0x74 || separator == 0x20 || separator == 0x5f)
      = true := by
    simpa [or_assoc] using hseparator
  refine ⟨micro, ?_, hmicro⟩
  rw [List.append_assoc, List.cons_append]
  simp only [dateTime?, hdate, if_pos hone, htime, offset?_of_zone hzs, Option.bind_eq_bind,
    Option.bind_some]
  rfl

/-- What is read as a date with a time has the parts of one. -/
theorem exists_of_dateTime? {bs : List UInt8} {t : DateTime} (h : dateTime? bs = some t) :
    ∃ ds cs zs separator q z, OnDate ds t.date ∧ HasDay t.date ∧
      separator ∈ [0x54, 0x74, 0x20, 0x5f] ∧ OnClock cs t.hour t.minute t.second q ∧ Zone zs z ∧
      bs = ds ++ separator :: cs ++ zs := by
  unfold dateTime? at h
  split at h
  · next d separator rest hdate =>
    obtain ⟨ds, hds, hd, rfl⟩ := date_eq_ok.mp hdate
    split at h
    · next hone =>
      simp only [Option.bind_eq_bind, Option.bind_eq_some_iff] at h
      obtain ⟨⟨⟨hour, minute, second, micro⟩, more⟩, htime, z, hzone, h⟩ := h
      obtain ⟨cs, q, hcs, rfl, -⟩ := exists_of_time? htime
      cases h
      refine ⟨ds, cs, more, separator, q, z, hds, hd, ?_, hcs, zone_of_offset? hzone, by simp⟩
      simpa [or_assoc] using hone
    · cases h
  · cases h

theorem midnight_eq_ok {bs : List UInt8} {t : DateTime} :
    midnight bs = .ok t ↔ ∃ d, OnDate bs d ∧ HasDay d ∧ t = ⟨d, 0, 0, 0, 0, none⟩ := by
  unfold midnight
  constructor
  · intro h
    split at h
    · next d hdate =>
      obtain ⟨ds, hds, hd, hbs⟩ := date_eq_ok.mp hdate
      rw [List.append_nil] at hbs
      exact ⟨d, hbs ▸ hds, hd, (Except.ok.inj h).symm⟩
    · cases h
    · cases h
  · rintro ⟨d, hds, hd, rfl⟩
    have hdate : date bs = .ok (d, []) := date_eq_ok.mpr ⟨bs, hds, hd, by simp⟩
    rw [hdate]

/-- What is read as a date or a date with a time is a spelling, from year 1 on. -/
theorem exists_denotes {bs : List UInt8} {t : DateTime}
    (h : dateTime? bs = some t ∨ midnight bs = .ok t) (hyear : t.date.year ≠ 0) :
    ∃ q, Denotes bs q := by
  have hvalid : HasDay t.date → t.date.IsValid := fun hd => ⟨Nat.pos_of_ne_zero hyear, hd⟩
  rcases h with h | h
  · obtain ⟨ds, cs, zs, separator, q, z, hds, hd, hseparator, hcs, hzs, hbs⟩ :=
      exists_of_dateTime? h
    exact ⟨_, .of_parts hbs.symm hds (hvalid hd) hseparator hcs hzs⟩
  · obtain ⟨d, hds, hd, rfl⟩ := midnight_eq_ok.mp h
    exact ⟨_, d, 0, _, .midnight hds (hvalid hd), Date.counted_iff.mpr ⟨hvalid hd, rfl⟩, rfl⟩

/-- A date counts nothing. -/
theorem count?_of_onDate {bs : List UInt8} {d : Date} (h : OnDate bs d) :
    Timestamp.count? bs = none := by
  obtain @⟨ys, ms, ds, y, m, n, ⟨hlength, hy⟩, -, -⟩ := h
  obtain ⟨y1, y2, y3, y4, rfl⟩ := List.length_eq_four.mp hlength
  have hdigit := hy.isSome y1 List.mem_cons_self
  have hminus : y1 ≠ 0x2d := by rintro rfl; cases hdigit
  have hplus : y1 ≠ 0x2b := by rintro rfl; cases hdigit
  have hend : ∀ b ∈ (0x2d :: ms ++ 0x2d :: ds : List UInt8).head?, byteDigit? b = none := by
    intro b hb
    obtain rfl := Option.some.inj hb
    rfl
  have htake := takeWhile_digits hy hend
  have hbound : ¬ Timestamp.countBound ≤ (y : ℤ) := by
    have hlt := hy.lt
    simp only [List.length_cons, List.length_nil] at hlt
    unfold Timestamp.countBound
    omega
  -- the first byte is no sign, so that the whole text is the body
  have hbody : Timestamp.count? ([y1, y2, y3, y4] ++ 0x2d :: ms ++ 0x2d :: ds)
      = (number? [y1, y2, y3, y4]).bind fun n =>
          if Timestamp.countBound ≤ n then none else none := by
    unfold Timestamp.count?
    simp only [List.cons_append, List.nil_append] at htake ⊢
    simp [hminus, hplus, htake]
  rw [hbody, number?_eq_some.mpr hy, Option.bind_some, if_neg hbound]

end Iso8601

namespace Moment

open Iso8601

theorem instant_eq_floor {q : ℚ} {micro : Nat} (hmicro : (micro : ℤ) = ⌊q * 10 ^ 6⌋) (d : Date)
    (h m s : Nat) (z : Option ℤ) :
    (DateTime.mk d h m s micro (z.map (· * microsPerMinute))).instant
      = ⌊((d.ordinal - epochOrdinal) * 86400 + (h * 3600 + m * 60 + s + q - z.getD 0 * 60)) *
          (10 ^ 6 : ℚ)⌋ := by
  -- all but the fraction are whole microseconds
  have hwhole : ((d.ordinal - epochOrdinal) * 86400 + (h * 3600 + m * 60 + s + q - z.getD 0 * 60)) *
      (10 ^ 6 : ℚ) = ((((d.ordinal : ℤ) - epochOrdinal) * 86400 + h * 3600 + m * 60 + s) * 1000000
        - z.getD 0 * 60000000 : ℤ) + q * 10 ^ 6 := by
    push_cast
    ring
  rw [hwhole, Int.floor_intCast_add, ← hmicro]
  cases z with
  | none => simp [DateTime.instant, DateTime.shown]
  | some k =>
    simp only [DateTime.instant, DateTime.shown, microsPerMinute, Option.map_some, Option.getD_some]
    push_cast
    ring

theorem found_of_isValid {t : DateTime} (h : t.date.IsValid) : found t = .ok t := by
  have hyear : t.date.year ≠ 0 := by
    have hpos := h.1
    omega
  simp [found, checked, hyear, Except.mapError]

theorem ofText_of_dateTime? {bs : List UInt8} {t : DateTime} (h : dateTime? bs = some t) :
    ofText bs = found t := by
  rw [ofText, h]

theorem ofText_of_midnight {bs : List UInt8} {t : DateTime} (h : midnight bs = .ok t) :
    ofText bs = found t := by
  obtain ⟨d, hds, hd, rfl⟩ := midnight_eq_ok.mp h
  have hdate : date bs = .ok (d, []) := date_eq_ok.mpr ⟨bs, hds, hd, by simp⟩
  have hnone : dateTime? bs = none := by
    unfold dateTime?
    rw [hdate]
  simp only [ofText, hnone, count?_of_onDate hds, ofDateText, h]

/-- **A spelling is read as its moment**, to the microsecond. -/
theorem ofText_of_denotes {bs : List UInt8} {q : ℚ} (h : Denotes bs q) :
    ∃ t, ofText bs = .ok t ∧ t.instant = ⌊q * 10 ^ 6⌋ := by
  obtain ⟨d, seconds, n, hspells, hn, rfl⟩ := h
  obtain ⟨-, rfl⟩ := hn.spec
  cases hspells with
  | midnight hds hd =>
    have hread := ofText_of_midnight (midnight_eq_ok.mpr ⟨d, hds, hasDay_of_isValid hd, rfl⟩)
    refine ⟨_, hread.trans (found_of_isValid hd), ?_⟩
    have hinstant := @instant_eq_floor 0 0 (by simp) d 0 0 0 none
    simpa using hinstant
  | @reading ds cs zs d separator h m s q z hds hd hseparator hcs hzs =>
    obtain ⟨micro, hread, hmicro⟩ :=
      dateTime?_of_parts hds (hasDay_of_isValid hd) hseparator hcs hzs
    refine ⟨_, (ofText_of_dateTime? hread).trans (found_of_isValid hd), ?_⟩
    exact instant_eq_floor hmicro d h m s z

/-- **What is read in one of the two forms is a spelling**, and is read as its moment. -/
theorem exists_denotes_of_ofText {bs : List UInt8} {t : DateTime} (h : ofText bs = .ok t)
    (hform : (dateTime? bs).isSome = true ∨ (midnight bs).isOk = true) :
    ∃ q, Denotes bs q ∧ t.instant = ⌊q * 10 ^ 6⌋ := by
  -- in either form it is the reading itself that is given, so it is not of year 0
  obtain ⟨t', hread, hfound⟩ : ∃ t', (dateTime? bs = some t' ∨ midnight bs = .ok t') ∧
      found t' = .ok t := by
    rcases hform with hform | hform
    · obtain ⟨t', ht'⟩ := Option.isSome_iff_exists.mp hform
      exact ⟨t', Or.inl ht', (ofText_of_dateTime? ht').symm.trans h⟩
    · cases hmidnight : midnight bs with
      | ok t' => exact ⟨t', Or.inr rfl, (ofText_of_midnight hmidnight).symm.trans h⟩
      | error p =>
        rw [hmidnight] at hform
        cases hform
  have hyear : t'.date.year ≠ 0 := by
    intro hzero
    simp [found, checked, hzero, Except.mapError] at hfound
  obtain ⟨q, hq⟩ := exists_denotes hread hyear
  obtain ⟨t'', ht'', hinstant⟩ := ofText_of_denotes hq
  obtain rfl : t = t'' := Except.ok.inj (h.symm.trans ht'')
  exact ⟨q, hq, hinstant⟩

end Moment
end OfferRules

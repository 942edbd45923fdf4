import OfferRules.Number.Decimal

/-!
# Dates, clock readings and instants

Dates of the proleptic Gregorian calendar from year 1 to 9999, and clock readings on them with
an optional offset from universal time.  Two readings denote the same moment when they have the
same `instant`; a reading without an offset is taken as universal time.

## Main definitions

* `Date`, `DateTime` — a day, and a reading on it to the microsecond.
* `Date.make?`, `DateTime.make?` — the checked constructors.
* `Date.ordinal`, `Date.ofOrdinal` — the count of days from 1 January of year 1.
* `DateTime.instant` — microseconds from the start of 1970, universal time.
* `Date.iso`, `DateTime.iso` — the ISO 8601 texts.
-/

namespace OfferRules

/-- Why day, month and clock fields make no date or reading. -/
inductive CalendarError where
  /-- The year is not among 1 to 9999. -/
  | year (year : Nat)
  /-- The month is not among 1 to 12. -/
  | month
  /-- The month has no such day. -/
  | day
  /-- The hour is not below 24. -/
  | hour
  /-- The minute is not below 60. -/
  | minute
  /-- The second is not below 60. -/
  | second
deriving DecidableEq, Repr

/-- The wording of a calendar error. -/
def CalendarError.message : CalendarError → String
  | .year y => "year " ++ toString y ++ " is out of range"
  | .month => "month must be in 1..12"
  | .day => "day is out of range for month"
  | .hour => "hour must be in 0..23"
  | .minute => "minute must be in 0..59"
  | .second => "second must be in 0..59"

/-- A date of the proleptic Gregorian calendar. -/
structure Date where
  /-- The year. -/
  year : Nat
  /-- The month, from 1. -/
  month : Nat
  /-- The day of the month, from 1. -/
  day : Nat
deriving DecidableEq, Repr

/-- A clock reading on a date, with its offset from universal time if that is known. -/
structure DateTime where
  /-- The day of the reading. -/
  date : Date
  /-- The hour. -/
  hour : Nat
  /-- The minute. -/
  minute : Nat
  /-- The second. -/
  second : Nat
  /-- The microsecond. -/
  micro : Nat
  /-- The microseconds by which the reading is ahead of universal time. -/
  offset : Option Int
deriving DecidableEq, Repr

/-! ### The calendar -/

/-- Whether a year has a 29 February. -/
def isLeapYear (y : Nat) : Bool := (y % 4 == 0 && y % 100 != 0) || y % 400 == 0

/-- The number of days of a month. -/
def daysInMonth (y m : Nat) : Nat :=
  if m = 2 then (if isLeapYear y then 29 else 28)
  else if m = 4 ∨ m = 6 ∨ m = 9 ∨ m = 11 then 30 else 31

/-- The number of days from the start of year 1 to the start of a year. -/
def daysBeforeYear (y : Nat) : Nat :=
  let p := y - 1
  p * 365 + p / 4 - p / 100 + p / 400

/-- The number of days from the start of a year to the start of a month. -/
def daysBeforeMonth (y m : Nat) : Nat :=
  (List.range (m - 1)).foldr (fun i days => daysInMonth y (i + 1) + days) 0

namespace Date

/-- The date with the given fields, if there is one. -/
def make? (year month day : Nat) : Except CalendarError Date :=
  if year = 0 ∨ 9999 < year then .error (.year year)
  else if month = 0 ∨ 12 < month then .error .month
  else if day = 0 ∨ daysInMonth year month < day then .error .day
  else .ok ⟨year, month, day⟩

/-- The count of days up to a date; 1 January of year 1 is day 1. -/
def ordinal (d : Date) : Nat := daysBeforeYear d.year + daysBeforeMonth d.year d.month + d.day

/-- The month and the day of the `n`-th day of a year, counted from zero, looked for from
month `m` on. -/
def monthDay (y : Nat) : Nat → Nat → Nat → Nat × Nat
  | 0, m, n => (m, n + 1)
  | left + 1, m, n =>
    if n < daysInMonth y m then (m, n + 1) else monthDay y left (m + 1) (n - daysInMonth y m)

/-- The year in which the `n`-th day falls, counted from zero at the start of year 1. -/
def yearOf (n : Nat) : Nat :=
  let guess := n / 366 + 1
  let bound := n / 365 + 2
  ((List.range (bound - guess)).foldl
    (fun y _ => if daysBeforeYear (y + 1) ≤ n then y + 1 else y) guess)

/-- The date with a given ordinal. -/
def ofOrdinal (n : Nat) : Date :=
  let year := yearOf (n - 1)
  let (month, day) := monthDay year 11 1 (n - 1 - daysBeforeYear year)
  ⟨year, month, day⟩

/-- The ISO 8601 text of a date. -/
def iso (d : Date) : String :=
  padNat 4 d.year ++ "-" ++ padNat 2 d.month ++ "-" ++ padNat 2 d.day

end Date

/-! ### Readings and instants -/

/-- The ordinal of 1 January 1970. -/
def epochOrdinal : Nat := 719163

/-- The microseconds of a minute. -/
def microsPerMinute : Nat := 60000000

namespace DateTime

/-- The reading with the given clock fields, if there is one. -/
def make? (date : Date) (hour minute second micro : Nat) (offset : Option Int) :
    Except CalendarError DateTime :=
  if 24 ≤ hour then .error .hour
  else if 60 ≤ minute then .error .minute
  else if 60 ≤ second then .error .second
  else .ok ⟨date, hour, minute, second, micro, offset⟩

/-- The microseconds from the start of 1970 that the fields of a reading show. -/
def shown (t : DateTime) : Int :=
  (((t.date.ordinal : Int) - epochOrdinal) * 86400 + t.hour * 3600 + t.minute * 60 + t.second) *
    1000000 + t.micro

/-- The moment of a reading, in microseconds from the start of 1970, universal time; a reading
without an offset shows universal time. -/
def instant (t : DateTime) : Int := t.shown - t.offset.getD 0

/-- Whether two readings are equal: both with an offset and of the same moment, or both
without one and with the same fields. -/
def sameAs (a b : DateTime) : Bool :=
  a.offset.isSome == b.offset.isSome && a.instant == b.instant

/-- The universal-time reading of a moment given in microseconds from the start of 1970; none
outside the years 1 to 9999. -/
def ofInstant? (micros : Int) : Option DateTime :=
  let day := micros / 86400000000
  let rest := (micros % 86400000000).toNat
  let ordinal := day + epochOrdinal
  if ordinal < 1 ∨ 3652059 < ordinal then none
  else
    let seconds := rest / 1000000
    some { date := .ofOrdinal ordinal.toNat, hour := seconds / 3600
           minute := seconds / 60 % 60, second := seconds % 60
           micro := rest % 1000000, offset := some 0 }

/-- The text of an offset, such as `+05:30`: seconds and microseconds only as far as they are
needed. -/
def offsetText (micros : Int) : String :=
  let size := micros.natAbs
  let seconds := size / 1000000
  (if micros < 0 then "-" else "+") ++ padNat 2 (seconds / 3600) ++ ":" ++
    padNat 2 (seconds / 60 % 60) ++
    (if size % microsPerMinute = 0 then "" else ":" ++ padNat 2 (seconds % 60)) ++
    (if size % 1000000 = 0 then "" else "." ++ padNat 6 (size % 1000000))

/-- The ISO 8601 text of a reading with the given separator: microseconds only when they are
not zero, the offset only when there is one. -/
def isoWith (separator : String) (t : DateTime) : String :=
  t.date.iso ++ separator ++ padNat 2 t.hour ++ ":" ++ padNat 2 t.minute ++ ":" ++
    padNat 2 t.second ++ (if t.micro = 0 then "" else "." ++ padNat 6 t.micro) ++
    (match t.offset with
      | some micros => offsetText micros
      | none => "")

/-- The ISO 8601 text of a reading. -/
def iso (t : DateTime) : String := t.isoWith "T"

end DateTime
end OfferRules

import OfferRules.Number.Whole
import OfferRules.Value.Basic
import OfferRules.Yaml.Cursor
import OfferRules.Yaml.Problem

/-!
# Dates and readings in documents

A date is written as year, month and day.  After a `T` or blanks a time may follow, with a
fraction of the second and an offset from universal time.

## Main definitions

* `Yaml.Stamp` — a date with or without a time, as it is written.
* `Yaml.Stamp.ofText?` — the one that a text writes.
* `Yaml.Stamp.atom` — the date or reading it stands for.
-/

namespace OfferRules.Yaml

/-- A time as it is written. -/
structure StampTime where
  /-- The hour. -/
  hour : Nat
  /-- The minute. -/
  minute : Nat
  /-- The second. -/
  second : Nat
  /-- The digits of the fraction of the second. -/
  fraction : List Char
  /-- The minutes by which the time is ahead of universal time, if that is written. -/
  offset : Option Int

/-- A date with or without a time, as it is written. -/
structure Stamp where
  /-- The year. -/
  year : Nat
  /-- The month. -/
  month : Nat
  /-- The day. -/
  day : Nat
  /-- Whether month and day have two digits each. -/
  isPadded : Bool
  /-- The time. -/
  time : Option StampTime

namespace Stamp

/-- The digits at the front of a text, at least one number of them and at most another, and the
text after them. -/
def digits? (least most : Nat) (cs : List Char) : Option (List Char × List Char) :=
  let found := (cs.take most).takeWhile isAsciiDigit
  if found.length < least then none else some (found, cs.drop found.length)

/-- The text after a character at its front. -/
def after? (x : Char) : List Char → Option (List Char)
  | c :: rest => if c = x then some rest else none
  | [] => none

/-- The offset that a whole text writes, with blanks before it: nothing, the letter of universal
time, or a sign, hours and minutes. -/
def offset? (cs : List Char) : Option (Option Int) :=
  match cs, cs.dropWhile isGap with
  | [], _ => some none
  | _, ['Z'] => some (some 0)
  | _, sign :: rest =>
    if sign = '+' || sign = '-' then do
      let (hours, rest) ← digits? 1 2 rest
      let minutes ← if rest.isEmpty then some 0
        else do
          let (minutes, rest) ← digits? 2 2 (← after? ':' rest)
          if rest.isEmpty then some (natOfDigits minutes) else none
      let total : Int := 60 * natOfDigits hours + minutes
      return some (if sign = '-' then -total else total)
    else none
  | _, [] => none

/-- The digits of a fraction after a point, if there is one, and the text after them. -/
def fraction : List Char → List Char × List Char
  | '.' :: rest => (rest.takeWhile isAsciiDigit, rest.dropWhile isAsciiDigit)
  | cs => ([], cs)

/-- The time that a whole text writes. -/
def time? (cs : List Char) : Option StampTime := do
  let (hour, rest) ← digits? 1 2 cs
  let (minute, rest) ← digits? 2 2 (← after? ':' rest)
  let (second, rest) ← digits? 2 2 (← after? ':' rest)
  let (fraction, rest) := fraction rest
  let offset ← offset? rest
  return { hour := natOfDigits hour, minute := natOfDigits minute, second := natOfDigits second
           fraction, offset }

/-- The text of a time after what parts it from its date. -/
def afterDate? : List Char → Option (List Char)
  | c :: rest =>
    if c = 'T' || c = 't' then some rest
    else if isGap c then some (rest.dropWhile isGap)
    else none
  | [] => none

/-- The date with or without a time that a whole text writes. -/
def ofText? (cs : List Char) : Option Stamp := do
  let (year, rest) ← digits? 4 4 cs
  let (month, rest) ← digits? 1 2 (← after? '-' rest)
  let (day, rest) ← digits? 1 2 (← after? '-' rest)
  let time ← if rest.isEmpty then some none
    else (afterDate? rest).bind fun rest => (time? rest).map some
  return { year := natOfDigits year, month := natOfDigits month, day := natOfDigits day
           isPadded := month.length == 2 && day.length == 2, time }

/-- The microseconds of a fraction of a second; digits after the sixth are dropped. -/
def micros (fraction : List Char) : Nat :=
  let kept := fraction.take 6
  natOfDigits kept * Nat.pow 10 (6 - kept.length)

/-- A calendar outcome with its error as a problem. -/
def checked {α : Type} : Except CalendarError α → Except Problem α
  | .ok a => .ok a
  | .error e => .error (.fault (.calendar e))

/-- The date or reading that a date with or without a time stands for. -/
def atom (s : Stamp) : Except Problem Atom :=
  match s.time with
  | none => (checked (Date.make? s.year s.month s.day)).map .date
  | some t => do
    match t.offset with
    | some minutes =>
      if 1440 ≤ minutes.natAbs then throw (.fault (.badOffset (minutes * microsPerMinute)))
      else pure ()
    | none => pure ()
    let date ← checked (Date.make? s.year s.month s.day)
    return .dateTime (← checked
      (DateTime.make? date t.hour t.minute t.second (micros t.fraction)
        (t.offset.map (· * microsPerMinute))))

end Stamp
end OfferRules.Yaml

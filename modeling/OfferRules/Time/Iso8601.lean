import OfferRules.Number.Basic
import OfferRules.Time.Calendar

/-!
# Moments in texts and numbers

A moment is written as a date with a time in ISO 8601 form, as a date alone, which stands for its
midnight, or as the seconds since the start of 1970, in universal time.  A count of more than
twenty thousand million is one of milliseconds.

Texts are looked at as bytes in UTF-8.

## Main definitions

* `MomentProblem` — why a text or a number is no moment.
* `Iso8601.dateTime?`, `Iso8601.date` — the two ISO forms.
* `Timestamp.ofCount`, `Timestamp.ofDouble` — counts of seconds or milliseconds.
* `Moment.ofText` — any of the forms in a text.
-/

namespace OfferRules

/-- Why a text or a number is no moment. -/
inductive MomentProblem where
  /-- A date in a text is cut off. -/
  | tooShort
  /-- A year is not written in digits. -/
  | yearDigits
  /-- A month is not written in digits. -/
  | monthDigits
  /-- A day is not written in digits. -/
  | dayDigits
  /-- The parts of a date are not separated. -/
  | dateSeparator
  /-- There is no such month. -/
  | month
  /-- The month has no such day. -/
  | day
  /-- Something follows the date that is no time. -/
  | extra
  /-- A count lies before year 0. -/
  | tooEarly
  /-- A count lies after year 9999. -/
  | tooLate
  /-- The moment lies in year 0, which no reading shows. -/
  | yearZero
  /-- The count is not a number. -/
  | notANumber
deriving DecidableEq, Repr

/-- The wording of a problem. -/
def MomentProblem.message : MomentProblem → String
  | tooShort => "input is too short"
  | yearDigits => "invalid character in year"
  | monthDigits => "invalid character in month"
  | dayDigits => "invalid character in day"
  | dateSeparator => "invalid date separator, expected \x60-\x60"
  | month => "month value is outside expected range of 1-12"
  | day => "day value is outside expected range"
  | extra => "unexpected extra characters at the end of the input"
  | tooEarly => "dates before 0000 are not supported as unix timestamps"
  | tooLate => "dates after 9999 are not supported as unix timestamps"
  | yearZero => "year 0 is out of range"
  | notANumber => "NaN values not permitted"

/-- The value of a byte that is an ASCII digit. -/
def byteDigit? (b : UInt8) : Option Nat :=
  if 0x30 ≤ b.toNat && b.toNat ≤ 0x39 then some (b.toNat - 0x30) else none

/-! ### ISO 8601 -/

namespace Iso8601

/-- The number that bytes of ASCII digits write. -/
def number? (bytes : List UInt8) : Option Nat :=
  bytes.foldl (fun n b => n.bind fun n => (byteDigit? b).map (10 * n + ·)) (some 0)

/-- The number of two digits at the front, and the bytes after it. -/
def twoDigits? : List UInt8 → Option (Nat × List UInt8)
  | a :: b :: rest => (number? [a, b]).map (·, rest)
  | _ => none

/-- The date at the front, and the bytes after it; it may be of year 0. -/
def date : List UInt8 → Except MomentProblem (Date × List UInt8)
  | y1 :: y2 :: y3 :: y4 :: s1 :: m1 :: m2 :: s2 :: d1 :: d2 :: rest =>
    match number? [y1, y2, y3, y4] with
    | none => .error .yearDigits
    | some year =>
      if s1 != 0x2d then .error .dateSeparator
      else match number? [m1, m2] with
        | none => .error .monthDigits
        | some month =>
          if s2 != 0x2d then .error .dateSeparator
          else match number? [d1, d2] with
            | none => .error .dayDigits
            | some day =>
              if month = 0 ∨ 12 < month then .error .month
              else if day = 0 ∨ daysInMonth year month < day then .error .day
              else .ok (⟨year, month, day⟩, rest)
  | _ => .error .tooShort

/-- The microseconds after a decimal mark: at least one digit, those after the sixth dropped. -/
def fraction? (bytes : List UInt8) : Option (Nat × List UInt8) :=
  let digits := bytes.takeWhile fun b => (byteDigit? b).isSome
  if digits.isEmpty then none
  else
    let kept := digits.take 6
    (number? kept).map fun n => (n * Nat.pow 10 (6 - kept.length), bytes.drop digits.length)

/-- The hour and minute at the front with the second and fraction if they are there, and the
bytes after them. -/
def time? (bytes : List UInt8) : Option ((Nat × Nat × Nat × Nat) × List UInt8) := do
  let (hour, rest) ← twoDigits? bytes
  match rest with
  | 0x3a :: rest =>
    let (minute, rest) ← twoDigits? rest
    if 24 ≤ hour ∨ 60 ≤ minute then none
    else match rest with
      | 0x3a :: rest =>
        let (second, rest) ← twoDigits? rest
        if 60 ≤ second then none
        else match rest with
          | mark :: more =>
            if mark == 0x2e || mark == 0x2c then
              let (micro, rest) ← fraction? more
              return ((hour, minute, second, micro), rest)
            else return ((hour, minute, second, 0), rest)
          | [] => return ((hour, minute, second, 0), [])
      | rest => return ((hour, minute, 0, 0), rest)
  | _ => none

/-- The offset in minutes after its sign; a colon may separate hours and minutes. -/
def signedOffset? (negative : Bool) (bytes : List UInt8) : Option Int := do
  let (hours, rest) ← twoDigits? bytes
  let (minutes, rest) ← twoDigits? (match rest with
    | 0x3a :: rest => rest
    | rest => rest)
  let total := 60 * hours + minutes
  if 60 ≤ minutes ∨ 1440 ≤ total ∨ !rest.isEmpty then none
  else return if negative then -(total : Int) else total

/-- The offset in minutes that ends a text: none, the letter Z, or a sign with hours and minutes;
the minus may be the character of mathematics. -/
def offset? : List UInt8 → Option (Option Int)
  | [] => some none
  | [0x5a] | [0x7a] => some (some 0)
  | 0x2b :: rest => (signedOffset? false rest).map some
  | 0x2d :: rest => (signedOffset? true rest).map some
  | 0xe2 :: 0x88 :: 0x92 :: rest => (signedOffset? true rest).map some
  | _ => none

/-- The reading that a whole text of date, separator and time gives; it may be of year 0. -/
def dateTime? (bytes : List UInt8) : Option DateTime :=
  match date bytes with
  | .ok (d, separator :: rest) =>
    if separator == 0x54 || separator == 0x74 || separator == 0x20 || separator == 0x5f then do
      let ((hour, minute, second, micro), rest) ← time? rest
      let offset ← offset? rest
      return ⟨d, hour, minute, second, micro, offset.map (· * microsPerMinute)⟩
    else none
  | _ => none

/-- The midnight of the date that a whole text gives; it may be of year 0. -/
def midnight (bytes : List UInt8) : Except MomentProblem DateTime :=
  match date bytes with
  | .ok (d, []) => .ok ⟨d, 0, 0, 0, 0, none⟩
  | .ok _ => .error .extra
  | .error e => .error e

end Iso8601

/-! ### Counts -/

namespace Timestamp

/-- The greatest count of seconds; greater ones are of milliseconds. -/
def secondsBound : Nat := 20000000000

/-- The first second of year 0. -/
def firstSecond : Int := -62167219200

/-- The last second of year 9999. -/
def lastSecond : Int := 253402300799

/-- The bounds of the counts that are looked at. -/
def countBound : Int := 9223372036854775808

/-- The moment of a count of seconds or milliseconds and further microseconds. -/
def ofCount (count : Int) (micros : Nat) : Except MomentProblem DateTime :=
  let total : Int :=
    if count.natAbs ≤ secondsBound then count * 1000000 + micros else count * 1000 + micros
  let second := total / 1000000
  if count ≤ -countBound then .error .tooEarly
  else if second < firstSecond then .error .tooEarly
  else if lastSecond < second then .error .tooLate
  else match DateTime.ofInstant? total with
    | some t => .ok t
    | none => .error .yearZero

/-- The greatest whole number that is at most a number of units. -/
def floorUnits (units : Int) : Int := units.fdiv Magnitude.perOne

/-- A double times a million, rounded to a whole number, halves up. -/
def millions (d : Double) : Nat :=
  match d * Double.ofNat 1000000 with
  | .finite _ size => (2 * size.units + Magnitude.perOne) / (2 * Magnitude.perOne)
  | _ => 0

/-- The moment of a count given as a double: its floor is counted, and the distance of the
double from zero gives the further microseconds. -/
def ofDouble : Double → Except MomentProblem DateTime
  | .nan => .error .notANumber
  | .infinite negative => .error (if negative then .tooEarly else .tooLate)
  | .finite negative size =>
    let units : Int := if negative then -(size.units : Int) else size.units
    let fraction := Double.ofUnits false (size.units % Magnitude.perOne) 1
    let count := max (-countBound) (min (countBound - 1) (floorUnits units))
    ofCount count (millions fraction)

/-- A count in a text: a whole number, or one with a fraction. -/
inductive Count where
  /-- A whole number. -/
  | whole (n : Int)
  /-- A number with a fraction. -/
  | fractional (d : Double)

/-- The digits of a fraction added to a double one after the other. -/
def addFraction : List UInt8 → Double → Double → Option Double
  | [], sum, _ => some sum
  | b :: rest, sum, scale =>
    (byteDigit? b).bind fun digit =>
      addFraction rest (sum + Double.ofNat digit / scale) (scale * Double.ofNat 10)

/-- The count that a whole text gives: an optional sign, digits, and maybe a point with further
digits. -/
def count? (bytes : List UInt8) : Option Count :=
  let (negative, body) := match bytes with
    | 0x2d :: rest => (true, rest)
    | 0x2b :: rest => (false, rest)
    | rest => (false, rest)
  let digits := body.takeWhile fun b => (byteDigit? b).isSome
  if digits.isEmpty then none
  else
    (Iso8601.number? digits).bind fun n =>
      if countBound ≤ n then none
      else match body.drop digits.length with
        | [] => some (.whole (if negative then -(n : Int) else n))
        | 0x2e :: rest =>
          (addFraction rest (Double.ofNat n) (Double.ofNat 10)).map fun d =>
            .fractional (if negative then d.negated else d)
        | _ => none

/-- The moment of a count with a fraction in a text. -/
def ofFraction (d : Double) : Except MomentProblem DateTime :=
  let seconds := if (Double.ofNat secondsBound).lt d.magnitude then d / Double.ofNat 1000 else d
  match seconds.units? with
  | none => .error .tooLate
  | some units =>
    let whole := floorUnits units
    let fraction := Double.ofUnits false (units - whole * Magnitude.perOne).toNat 1
    ofCount whole (millions fraction)

end Timestamp

/-! ### Texts -/

namespace Moment

/-- A reading of year 1 or later. -/
def checked (t : DateTime) : Except MomentProblem DateTime :=
  if t.date.year = 0 then .error .yearZero else .ok t

/-- Why a text is no moment: because of its form as a date, or because of the moment itself. -/
inductive TextProblem where
  /-- The text is no date. -/
  | form (p : MomentProblem)
  /-- The moment cannot be shown. -/
  | value (p : MomentProblem)
deriving DecidableEq, Repr

/-- A reading as the outcome for a text. -/
def found (t : DateTime) : Except TextProblem DateTime := (checked t).mapError .value

/-- The moment of a text that is only looked at as a date. -/
def ofDateText (bytes : List UInt8) : Except TextProblem DateTime :=
  match Iso8601.midnight bytes with
  | .ok t => found t
  | .error e =>
    match Timestamp.count? bytes with
    | some (.whole n) =>
      match Timestamp.ofCount n 0 with
      | .ok t => found t
      | .error p => .error (.form p)
    | _ => .error (.form e)

/-- The moment that the bytes of a text give. -/
def ofText (bytes : List UInt8) : Except TextProblem DateTime :=
  match Iso8601.dateTime? bytes with
  | some t => found t
  | none =>
    let counted := match Timestamp.count? bytes with
      | some (.whole n) => some (Timestamp.ofCount n 0)
      | some (.fractional d) => some (Timestamp.ofFraction d)
      | none => none
    match counted with
    | some (.ok t) => found t
    | some (.error .yearZero) => .error (.value .yearZero)
    | _ => ofDateText bytes

end Moment
end OfferRules

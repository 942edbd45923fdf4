import OfferRules.Fault
import OfferRules.Text.Digit
import OfferRules.Value.Basic

/-!
# Paths into values

A path is a text whose segments are separated by dots.  A segment names an entry of a mapping,
or, written in decimal digits, the place of an item of a list.

## Main definitions

* `splitDots` — the segments of a path.
* `segmentIndex` — the place that a segment of digits names.
* `Value.child` — one step into a value.
* `Value.resolve` — the value at the end of a path: `none` if there is none, a fault if a
  segment of digits names no place.
-/

namespace OfferRules

/-- The segments between the dots of a text; a text without dots is one segment. -/
def splitDots : List CodePoint → List (List CodePoint)
  | [] => [[]]
  | p :: rest =>
    if p = .char '.' then [] :: splitDots rest
    else match splitDots rest with
      | [] => [[p]]
      | segment :: more => (p :: segment) :: more

/-- Whether a segment is made of digits. -/
def isDigits (segment : List CodePoint) : Bool :=
  !segment.isEmpty && segment.all (CodePoint.isChar isDigit)

/-- The value of a code point as a decimal digit. -/
def pointDigit? : CodePoint → Option Nat
  | .char c => digitValue? c
  | .surrogate _ => none

/-- The place that a segment of digits names; digits without a place in decimal notation name
none.  The decimal digits before the first of these must not be too many. -/
def segmentIndex (segment : List CodePoint) : Except Fault Nat :=
  let count := (segment.takeWhile (CodePoint.isChar isDecimalDigit)).length
  if numeralLimit < count then .error (.longNumeral count)
  else if segment.all (CodePoint.isChar isDecimalDigit) then
    .ok (segment.foldl (fun n p => 10 * n + (pointDigit? p).getD 0) 0)
  else .error (.badInteger 10 (.ofPoints segment))

namespace Value

/-- The part of a value that a segment names: an entry of a mapping, or an item of a list. -/
def child (segment : List CodePoint) : Value → Except Fault (Option Value)
  | .map entries => .ok (Entries.get? (.text (.ofPoints segment)) entries)
  | .list items =>
    if isDigits segment then
      match segmentIndex segment with
      | .ok i => .ok items[i]?
      | .error e => .error e
    else .ok none
  | _ => .ok none

/-- A segment names an item of a list by the digits of its place. -/
theorem child_list_eq_some {segment : List CodePoint} {items : List Value} {part : Value} :
    (list items).child segment = .ok (some part) ↔
      isDigits segment = true ∧ ∃ i, segmentIndex segment = .ok i ∧ items[i]? = some part := by
  unfold child
  by_cases hdigits : isDigits segment = true
  · cases segmentIndex segment <;> simp [hdigits]
  · simp [hdigits]

/-- A step into a list fails at digits that name no place. -/
theorem child_list_eq_error {segment : List CodePoint} {items : List Value} {e : Fault} :
    (list items).child segment = .error e ↔
      isDigits segment = true ∧ segmentIndex segment = .error e := by
  unfold child
  by_cases hdigits : isDigits segment = true
  · cases segmentIndex segment <;> simp [hdigits]
  · simp [hdigits]

/-- Follows segments one after the other, as long as each names a part. -/
def follow : List (List CodePoint) → Value → Except Fault (Option Value)
  | [], v => .ok (some v)
  | segment :: rest, v =>
    match v.child segment with
    | .ok (some part) => follow rest part
    | .ok none => .ok none
    | .error e => .error e

theorem follow_cons (segment : List CodePoint) (rest : List (List CodePoint)) (v : Value) :
    v.follow (segment :: rest) = match v.child segment with
      | .ok (some part) => part.follow rest
      | .ok none => .ok none
      | .error e => .error e := rfl

/-- Segments lead to a value if the first one leads to a part, and the others from there to it. -/
theorem follow_cons_eq_some {segment : List CodePoint} {rest : List (List CodePoint)}
    {v node : Value} :
    v.follow (segment :: rest) = .ok (some node) ↔
      ∃ part, v.child segment = .ok (some part) ∧ part.follow rest = .ok (some node) := by
  rw [follow_cons]
  cases v.child segment with
  | error e => simp
  | ok found => cases found <;> simp

/-- Following segments fails at the first one, or behind the part that this one leads to. -/
theorem follow_cons_eq_error {segment : List CodePoint} {rest : List (List CodePoint)} {v : Value}
    {e : Fault} :
    v.follow (segment :: rest) = .error e ↔ v.child segment = .error e ∨
      ∃ part, v.child segment = .ok (some part) ∧ part.follow rest = .error e := by
  rw [follow_cons]
  cases v.child segment with
  | error e => simp
  | ok found => cases found <;> simp

/-- The value at the end of a path. -/
def resolve (v : Value) (path : Text) : Except Fault (Option Value) :=
  v.follow (splitDots path.points)

end Value
end OfferRules

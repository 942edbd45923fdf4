import OfferRules.Pattern.Parser
import OfferRules.Pattern.Search
import OfferRules.Value.Equality
import OfferRules.Value.View

/-!
# Operators of conditions

An operator compares the value of an attribute with a literal.  Equality and membership are
strict, the order is that of the values as numbers, and containment and patterns look at the
values as texts.

## Main definitions

* `Operator`, `Operator.named?` — the operators and their names.
* `Operator.Failure` — why a comparison gives no answer.
* `Operator.compare` — the comparison.
-/

namespace OfferRules

/-- An operator of a condition. -/
inductive Operator where
  /-- Strictly equal. -/
  | eq
  /-- Not strictly equal. -/
  | neq
  /-- Greater as a number. -/
  | gt
  /-- Greater or equal as a number. -/
  | gte
  /-- Less as a number. -/
  | lt
  /-- Less or equal as a number. -/
  | lte
  /-- Strictly equal to an item of the literal. -/
  | member
  /-- Strictly equal to no item of the literal. -/
  | nonmember
  /-- Holding the literal, as texts. -/
  | contains
  /-- Matched by the literal as a pattern. -/
  | pattern
deriving DecidableEq, Repr

namespace Operator

/-- The name of an operator. -/
def name : Operator → String
  | eq => "eq"
  | neq => "neq"
  | gt => "gt"
  | gte => "gte"
  | lt => "lt"
  | lte => "lte"
  | member => "in"
  | nonmember => "nin"
  | contains => "contains"
  | pattern => "regex"

/-- All operators. -/
def all : List Operator := [eq, neq, gt, gte, lt, lte, member, nonmember, contains, pattern]

/-- The operator of a name. -/
def named? (t : Text) : Option Operator := all.find? fun o => o.name = t

/-- Why a comparison gives no answer. -/
inductive Failure where
  /-- The pattern, given with the problem, cannot be read. -/
  | badPattern (pattern problem : Text)
  /-- An unexpected failure. -/
  | fault (f : Fault)

/-- A comparison of two values as numbers. -/
def compareNumbers (holds : Double → Double → Bool) (actual literal : Value) :
    Except Failure Bool :=
  match actual.toNumber, literal.toNumber with
  | .ok a, .ok b => .ok (holds a b)
  | .error e, _ => .error (.fault e)
  | _, .error e => .error (.fault e)

/-- Reads the text of a pattern. -/
def readPattern (text : Text) : Except Failure Pattern :=
  match Pattern.parse text.points with
  | .ok p => .ok p
  | .error (.problem p position) =>
    .error (.badPattern text (Pattern.report text.points p position))
  | .error (.fault f) => .error (.fault f)

/-- Whether the text of a value is matched by that of a literal as a pattern. -/
def matchesPattern (actual literal : Value) : Except Failure Bool :=
  match literal.toText with
  | .error e => .error (.fault e)
  | .ok text =>
    match readPattern text with
    | .error e => .error e
    | .ok p =>
      match actual.toText with
      | .error e => .error (.fault e)
      | .ok s => .ok (p.occursIn s.points)

/-- Whether a value is strictly equal to an item of a literal; a literal that is no list has no
answer. -/
def isMember? (actual literal : Value) : Option Bool :=
  match literal with
  | .list items => some (items.any fun item => actual.strictEq item)
  | _ => none

/-- Compares the value of an attribute with a literal. -/
def compare (actual literal : Value) : Operator → Except Failure Bool
  | eq => .ok (actual.strictEq literal)
  | neq => .ok (!actual.strictEq literal)
  | gt => compareNumbers (fun a b => b.lt a) actual literal
  | gte => compareNumbers (fun a b => b.le a) actual literal
  | lt => compareNumbers Double.lt actual literal
  | lte => compareNumbers Double.le actual literal
  | member => .ok ((isMember? actual literal).getD false)
  | nonmember => .ok (((isMember? actual literal).map (!·)).getD false)
  | contains => (actual.contains literal).mapError .fault
  | pattern => matchesPattern actual literal

end Operator
end OfferRules

import OfferRules.Log.Traced
import OfferRules.Rule.Basic
import OfferRules.Rule.Operator
import OfferRules.Value.Path

/-!
# Evaluating conditions and rules

A condition holds for a player when the attribute it addresses is there, is not null, and
compares with the literal as the operator says.  What cannot be compared does not hold: an
operator or a pattern that does not exist gives a notice.  A rule without conditions holds for
everybody.

## Main definitions

* `Condition.evaluate` — one condition.
* `Logic`, `Logic.named?` — the ways to combine conditions.
* `Rule.matchesPlayer` — the conditions of a rule, combined.
-/

namespace OfferRules

/-- Whether a condition holds for a player whose attribute has a value. -/
def Condition.judge (c : Condition) (actual : Value) : Traced Bool :=
  match Operator.named? c.operator with
  | none => do
    Traced.tell (.unknownOperator c.operator c.field)
    return false
  | some o =>
    match o.compare actual c.value with
    | .ok b => return b
    | .error (.badPattern pattern problem) => do
      Traced.tell (.invalidPattern c.field pattern problem)
      return false
    | .error (.fault f) => Traced.ofExcept (.error f)

/-- Whether a condition holds for a player. -/
def Condition.evaluate (c : Condition) (player : Value) : Traced Bool :=
  match player.resolve c.field with
  | .error f => Traced.ofExcept (.error f)
  | .ok none => return false
  | .ok (some actual) => if actual.isNull then return false else c.judge actual

/-- A way to combine conditions. -/
inductive Logic where
  /-- All conditions must hold. -/
  | all
  /-- One condition must hold. -/
  | any
deriving DecidableEq, Repr

/-- The way to combine conditions that a name gives. -/
def Logic.named? (t : Text) : Option Logic :=
  if t = "AND" then some .all else if t = "OR" then some .any else none

/-- Whether the conditions of a rule hold for a player. -/
def Rule.matchesPlayer (r : Rule) (player : Value) : Traced Bool :=
  if r.conditions.isEmpty then return true
  else match Logic.named? r.logic with
    | some .all => Traced.allHold (·.evaluate player) r.conditions
    | some .any => Traced.anyHolds (·.evaluate player) r.conditions
    | none => return false

end OfferRules

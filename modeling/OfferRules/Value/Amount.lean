import OfferRules.Number.Floating
import OfferRules.Value.Basic

/-!
# Values as amounts

An amount that is set may be given as a number, as a truth value or as a text that writes a
double.  An amount that is added must be a number or a truth value.

## Main definitions

* `Value.toDouble` — the double of a value that is set.
* `Value.addend` — the double of a value that is added.
-/

namespace OfferRules

/-- The double nearest to a number; whole numbers can be too large for one. -/
def Number.nearest (n : Number) : Except Fault Double :=
  match n.toDouble? with
  | some d => .ok d
  | none => .error .overflow

namespace Value

/-- The double of a value that is set. -/
def toDouble : Value → Except Fault Double
  | .atom (.text t) => parseDouble t
  | .atom a =>
    match a.number? with
    | some n => n.nearest
    | none => .error (.notNumeric (Value.atom a).kindName)
  | v => .error (.notNumeric v.kindName)

/-- The double of a value that is added. -/
def addend : Value → Except Fault Double
  | .atom a =>
    match a.number? with
    | some n => n.nearest
    | none => .error (.notAddable (Value.atom a).kindName)
  | v => .error (.notAddable v.kindName)

end Value
end OfferRules

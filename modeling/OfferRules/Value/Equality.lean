import OfferRules.Value.Basic

/-!
# Strict equality of values

Values of different kinds are never equal, except that whole numbers and doubles are compared by
their exact value.  Lists are equal item by item, and mappings when they have the same keys and
equal values under each.

## Main definitions

* `Atom.strictEq` — equality of leaves.
* `Value.strictEq` — equality of values.
-/

namespace OfferRules

/-- Strict equality of leaves: numbers by exact value, readings by the moment they show. -/
def Atom.strictEq : Atom → Atom → Bool
  | .number a, .number b => a.eq b
  | .dateTime s, .dateTime t => s.sameAs t
  | .number _, _ | _, .number _ => false
  | a, b => a == b

/-- Whether two mappings have the same keys. -/
def Entries.sameKeys (xs ys : Entries) : Bool :=
  xs.all (fun x => ys.any fun y => x.1.same y.1) && ys.all (fun y => xs.any fun x => x.1.same y.1)

namespace Value

mutual

/-- Strict equality: no value equals one of another kind. -/
def strictEq : Value → Value → Bool
  | .atom a, .atom b => a.strictEq b
  | .list xs, .list ys => strictEqItems xs ys
  | .map xs, .map ys => Entries.sameKeys xs ys && strictEqEntries xs ys
  | .set xs, .set ys =>
    xs.all (fun x => ys.any x.same) && ys.all (fun y => xs.any y.same)
  | .pair a b, .pair c d => strictEq a c && strictEq b d
  | _, _ => false
termination_by structural v => v

/-- Equality item by item. -/
def strictEqItems : List Value → List Value → Bool
  | [], [] => true
  | x :: xs, y :: ys => strictEq x y && strictEqItems xs ys
  | _, _ => false
termination_by structural xs => xs

/-- Whether every entry has an equal value under its key in another mapping. -/
def strictEqEntries : List (Atom × Value) → Entries → Bool
  | [], _ => true
  | (k, v) :: rest, ys =>
    (match Entries.get? k ys with
      | some w => strictEq v w
      | none => false) && strictEqEntries rest ys
termination_by structural xs => xs

end

end Value
end OfferRules

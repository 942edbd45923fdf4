/-!
# Sets of characters as bounds

A set of characters is written as the increasing list of code points at which membership
changes: the first bound is the first member, the second the first non-member after it, and so
on.  A character is a member exactly when an odd number of bounds are at most its code point.
-/

namespace OfferRules

/-- A set of characters, given by the increasing code points at which membership changes. -/
structure CharSet where
  /-- The code points at which membership changes. -/
  bounds : Array Nat

namespace CharSet

/-- How many bounds among those from `lo` up to `hi` precede or equal `x`, plus `lo`, found by
halving. -/
def countLe (bounds : Array Nat) (x lo hi : Nat) : Nat :=
  if lo < hi then
    let mid := (lo + hi) / 2
    if bounds.getD mid 0 ≤ x then countLe bounds x (mid + 1) hi else countLe bounds x lo mid
  else lo
termination_by hi - lo
decreasing_by all_goals omega

/-- Membership of a character. -/
def contains (s : CharSet) (c : Char) : Bool :=
  countLe s.bounds c.toNat 0 s.bounds.size % 2 == 1

end CharSet
end OfferRules

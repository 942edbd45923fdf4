import OfferRules.Value.Basic

/-!
# Rules

A rule offers a promotion to the players on whom its conditions hold.  It has a priority, may
have a weight for drawing lots and a window of time in which it is active.

## Main definitions

* `Condition` — a comparison of one attribute of a player with a literal.
* `TimeWindow` — a span of time, open where it has no bound.
* `Rule` — a rule.
-/

namespace OfferRules

/-- A comparison of one attribute of a player, addressed by a path, with a literal.  The operator
is kept as it was written, also when there is none of its name. -/
structure Condition where
  /-- The path of the attribute. -/
  field : Text
  /-- The name of the operator. -/
  operator : Text
  /-- The literal. -/
  value : Value := .null

/-- A span of time; a missing bound leaves it open. -/
structure TimeWindow where
  /-- The first moment of the span. -/
  start : Option DateTime := none
  /-- The last moment of the span. -/
  finish : Option DateTime := none
deriving DecidableEq

/-- A rule. -/
structure Rule where
  /-- The name of the rule, which no other rule of a set has. -/
  id : Text
  /-- The priority: greater ones come first. -/
  priority : Number := 0
  /-- How the conditions are combined; a combination that does not exist holds for nobody. -/
  logic : Text := "AND"
  /-- The conditions. -/
  conditions : List Condition := []
  /-- The time in which the rule is active; without one it always is. -/
  window : Option TimeWindow := none
  /-- The promotion that the rule offers. -/
  promotion : Entries := []
  /-- The weight in drawing lots; without one it is one. -/
  weight : Option Number := none

end OfferRules

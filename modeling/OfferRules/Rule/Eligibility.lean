import OfferRules.Rule.Evaluation
import OfferRules.Rule.Gate

/-!
# Eligible rules

A rule is eligible for a player when its conditions hold and every gate, asked in order until one
rejects it, admits it.  A gate may put another rule in its place, which the next gates are asked
about.  The eligible rules of a list keep their order.

## Main definitions

* `Rule.passGates` — what the gates make of a rule.
* `Rule.candidate` — what the conditions and the gates make of a rule.
* `eligibleRules` — the eligible rules of a list.
-/

namespace OfferRules

/-- What gates, asked in order until one rejects it, make of a rule. -/
def Rule.passGates (now : DateTime) (player : Value) : List Gate → Rule → Traced (Option Rule)
  | [], r => return some r
  | g :: rest, r => do
    match ← g.apply now r player with
    | some next => passGates now player rest next
    | none => return none

/-- What the conditions of a rule and the gates make of it for a player at a time. -/
def Rule.candidate (gates : List Gate) (now : DateTime) (player : Value) (r : Rule) :
    Traced (Option Rule) := do
  if ← r.matchesPlayer player then Rule.passGates now player gates r else return none

/-- The eligible rules of a list, in its order.  A fault on one rule is a fault on the list. -/
def eligibleRules (gates : List Gate) (now : DateTime) (player : Value) :
    List Rule → Traced (List Rule)
  | [] => return []
  | r :: rest => do
    let here ← r.candidate gates now player
    let others ← eligibleRules gates now player rest
    return here.toList ++ others

end OfferRules

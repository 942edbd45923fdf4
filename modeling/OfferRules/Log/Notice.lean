import OfferRules.Log.Level
import OfferRules.Value.Basic

/-!
# Notices

What the evaluation of rules and the lifecycle of rule sets report to the log.  Each kind of
notice has a level, a source, an event text and fields.

## Main definitions

* `Notice` — the notices.
* `Notice.level`, `Notice.source`, `Notice.event`, `Notice.fields` — how a notice is logged.
-/

namespace OfferRules

/-- A notice to the log. -/
inductive Notice where
  /-- A condition has an operator that does not exist. -/
  | unknownOperator (operator field : Text)
  /-- A condition has a pattern that cannot be read. -/
  | invalidPattern (field pattern problem : Text)
  /-- A player is in none of the buckets of a rule. -/
  | outsideBuckets (ruleId : Text) (bucket : Nat)
  /-- A rule set was loaded. -/
  | rulesLoaded (count : Nat)
  /-- Loading a rule set failed. -/
  | loadFailed (problem : String) (details : Value)
  /-- A reload was asked for and has ended. -/
  | reloadRequested (success : Bool) (message : String)
  /-- A rule was selected among the eligible ones. -/
  | selected (ruleId : Text) (eligible : Nat)
  /-- None of the rules was eligible. -/
  | noMatch (evaluated : Nat)
  /-- The data given are no data of a player. -/
  | invalidPlayer (problem : String) (details : Value)
  /-- The selection failed. -/
  | selectionFailed (code problem : String)
deriving Inhabited

namespace Notice

/-- The level of a notice. -/
def level : Notice → Level
  | outsideBuckets _ _ | selected _ _ | noMatch _ => .debug
  | rulesLoaded _ | reloadRequested _ _ => .info
  | unknownOperator _ _ | invalidPattern _ _ _ | invalidPlayer _ _ => .warning
  | loadFailed _ _ | selectionFailed _ _ => .error

/-- The part of the library that a notice comes from. -/
def source : Notice → String
  | unknownOperator _ _ | invalidPattern _ _ _ => "promotions.conditions"
  | outsideBuckets _ _ => "promotions.ab_gate"
  | rulesLoaded _ | loadFailed _ _ => "promotions.rule_loader"
  | reloadRequested _ _ | selected _ _ | noMatch _ | invalidPlayer _ _ | selectionFailed _ _ =>
    "promotions.rule_engine"

/-- The event text of a notice. -/
def event : Notice → String
  | unknownOperator _ _ => "Unknown condition operator"
  | invalidPattern _ _ _ => "Invalid condition pattern"
  | outsideBuckets _ _ => "Player outside A/B buckets"
  | rulesLoaded _ => "Promotion rules loaded"
  | loadFailed _ _ => "Error loading rules"
  | reloadRequested _ _ => "Rule reload requested"
  | selected _ _ => "Promotion selected"
  | noMatch _ => "No promotion matched"
  | invalidPlayer _ _ => "Invalid player data"
  | selectionFailed _ _ => "Promotion evaluation error"

/-- The fields of a notice. -/
def fields : Notice → List (String × Value)
  | unknownOperator operator field => [("operator", .text operator), ("field", .text field)]
  | invalidPattern field pattern problem =>
    [("field", .text field), ("pattern", .text pattern), ("error", .text problem)]
  | outsideBuckets ruleId bucket => [("rule_id", .text ruleId), ("bucket", .int bucket)]
  | rulesLoaded count => [("count", .int count)]
  | loadFailed problem details => [("error", .text problem), ("details", details)]
  | reloadRequested success message => [("success", .bool success), ("message", .text message)]
  | selected ruleId eligible => [("rule_id", .text ruleId), ("eligible", .int eligible)]
  | noMatch evaluated => [("evaluated", .int evaluated)]
  | invalidPlayer problem details => [("error", .text problem), ("details", details)]
  | selectionFailed code problem => [("code", .text code), ("error", .text problem)]

/-- Whether a notice is logged together with the failure that caused it. -/
def withFailure : Notice → Bool
  | selectionFailed _ _ => true
  | _ => false

end Notice
end OfferRules

import OfferRules.Engine.Activity
import OfferRules.Log.Notice
import OfferRules.RuleSet.Source

/-!
# The rules in force

A store holds the rules in force and the source from which they are loaded.  If loading fails, no
rules are in force until a later load succeeds.  A reload is a load with a report on the number of
rules before and after it.

## Main definitions

* `RuleStore`, `RuleStore.load` — a store, and loading.
* `SourceProblem.report` — what is told of a failure.
* `ReloadReport`, `RuleStore.reload` — a reload.
-/

namespace OfferRules

/-- What is told of a failure: its wording, and its details. -/
def SourceProblem.report : SourceProblem → String × Value
  | .refused e => (e.message, e.details)
  | .fault f => (f.message, .record [("exception", .text f.className)])

/-- The rules in force and where they come from. -/
structure RuleStore where
  /-- The source. -/
  source : RuleSource
  /-- The rules in force, by descending priority. -/
  rules : List Rule := []
  /-- The account of loads and selections. -/
  activity : Activity := {}

/-- The outcome of a load. -/
structure Loaded where
  /-- The store after it. -/
  store : RuleStore
  /-- Whether it succeeded. -/
  success : Bool
  /-- The notices given. -/
  notices : List Notice

namespace RuleStore

/-- Puts rules in force. -/
def publish (s : RuleStore) (now : DateTime) (rules : List Rule) : Loaded :=
  { store := { s with rules, activity := s.activity.markLoad now true (.int rules.length) }
    success := true
    notices := [.rulesLoaded rules.length] }

/-- Puts no rules in force, for a reason. -/
def clear (s : RuleStore) (now : DateTime) (problem : SourceProblem) : Loaded :=
  { store := { s with rules := [], activity := s.activity.markLoad now false 0 }
    success := false
    notices := [.loadFailed problem.report.1 problem.report.2] }

/-- Loads the rules of the source. -/
def load (s : RuleStore) (now : DateTime) : Loaded :=
  match s.source.rules with
  | .ok rules => s.publish now rules
  | .error problem => s.clear now problem

end RuleStore

/-- A report on a reload. -/
structure ReloadReport where
  /-- Whether it succeeded. -/
  success : Bool
  /-- Its wording. -/
  message : String
  /-- When the rules were last loaded. -/
  stamp : Option DateTime

/-- The report on a reload, given the number of rules before and after it. -/
def ReloadReport.make (success : Bool) (previous current : Nat) (stamp : Option DateTime) :
    ReloadReport :=
  { success
    message :=
      (if success then "Rules reloaded successfully."
        else "Rule reload failed; rule set cleared.") ++
        " Previous: " ++ toString previous ++ ", Current: " ++ toString current
    stamp }

/-- A report as a value. -/
def ReloadReport.toValue (r : ReloadReport) : Value :=
  .record [("success", .bool r.success), ("message", .text r.message),
    ("timestamp", .text (match r.stamp with
      | some t => t.iso
      | none => ""))]

/-- Loads the rules of the source and reports on it. -/
def RuleStore.reload (s : RuleStore) (now : DateTime) : Loaded × ReloadReport :=
  let loaded := s.load now
  (loaded, .make loaded.success s.rules.length loaded.store.rules.length
    loaded.store.activity.lastLoad)

end OfferRules

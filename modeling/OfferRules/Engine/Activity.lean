import OfferRules.Metrics.Collector
import OfferRules.Value.Basic

/-!
# The activity of an engine

An engine keeps account of its selections, of how long they took, and of the time at which rules
were last loaded.  It passes all of this on to the metrics of its service, if it has some.

## Main definitions

* `Activity`, `Activity.record`, `Activity.markLoad` — the account, and what is entered into it.
* `Snapshot`, `Activity.snapshot` — a summary.
-/

namespace OfferRules

/-- The account of an engine. -/
structure Activity where
  /-- How many selections there were. -/
  evaluations : Nat := 0
  /-- How many of them found a promotion. -/
  hits : Nat := 0
  /-- How many found none. -/
  misses : Nat := 0
  /-- How long they took, in milliseconds. -/
  latency : Double := .zero
  /-- When rules were last loaded. -/
  lastLoad : Option DateTime := none
  /-- The metrics of the service. -/
  collector : Option Collector := none

/-- A thousand. -/
def thousand : Double := .ofNat 1000

namespace Activity

/-- Enters a selection that took some milliseconds. -/
def record (a : Activity) (hit : Bool) (milliseconds : Double) : Activity :=
  { a with
    evaluations := a.evaluations + 1
    hits := if hit then a.hits + 1 else a.hits
    misses := if hit then a.misses else a.misses + 1
    latency := a.latency + milliseconds
    collector := a.collector.map (·.recordSelection hit (milliseconds / thousand)) }

/-- Enters a load of a rule set. -/
def markLoad (a : Activity) (now : DateTime) (success : Bool) (rules : Number) : Activity :=
  { a with
    lastLoad := some now
    collector := a.collector.map (·.recordLoad success rules) }

end Activity

/-! ### Summaries -/

/-- A summary of the activity of an engine. -/
structure Snapshot where
  /-- How many selections there were. -/
  evaluations : Nat
  /-- How many of them found a promotion. -/
  hits : Nat
  /-- How many found none. -/
  misses : Nat
  /-- The share of hits, as a percentage. -/
  hitRate : String
  /-- The average time of a selection in milliseconds. -/
  averageLatency : Number
  /-- The number of rules in force. -/
  rules : Nat
  /-- When rules were last loaded. -/
  lastLoad : Option DateTime

/-- The percentage of some among others, with two decimal places. -/
def percentage (part whole : Nat) : String :=
  let share := Double.ofUnits false (part * Magnitude.perOne) whole
  (share * .ofNat 100).toFixed 2 ++ "%"

/-- The summary of an activity, given the number of rules in force. -/
def Activity.snapshot (a : Activity) (rules : Nat) : Snapshot :=
  { evaluations := a.evaluations, hits := a.hits, misses := a.misses
    hitRate := if a.evaluations = 0 then "0%" else percentage a.hits a.evaluations
    averageLatency :=
      if a.evaluations = 0 then 0
      else .double ((a.latency / .ofNat a.evaluations).roundTo 2)
    rules, lastLoad := a.lastLoad }

/-- A summary as a value. -/
def Snapshot.toValue (s : Snapshot) : Value :=
  .record [("totalEvaluations", .int s.evaluations), ("hits", .int s.hits),
    ("misses", .int s.misses), ("hitRate", .text s.hitRate),
    ("averageLatencyMs", .number s.averageLatency), ("totalRules", .int s.rules),
    ("lastReload", match s.lastLoad with
      | some t => .text t.iso
      | none => .null)]

end OfferRules

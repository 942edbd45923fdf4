import OfferRules.Engine.RuleStore
import OfferRules.Refusal
import OfferRules.Rule.Eligibility
import OfferRules.Rule.Selection

/-!
# Selecting a promotion for a player

An engine finds the rules in force that a player is eligible for, and its strategy selects one of
them.  Whatever goes wrong, the player gets no promotion, and every attempt is entered into the
account once, with a promotion or without.

## Main definitions

* `PlayerProblem`, `playerProblem?` — why a value is no data of a player.
* `Rule.payload` — what a player gets of a selected rule.
* `Engine`, `Engine.choose`, `Engine.select` — an engine, the choice of a rule, and a selection.
-/

namespace OfferRules

/-! ### Players -/

/-- Why a value is no data of a player. -/
inductive PlayerProblem where
  /-- It is no mapping, but of another kind. -/
  | notMapping (kind : String)
  /-- It does not say who the player is. -/
  | noId
deriving DecidableEq, Repr

namespace PlayerProblem

/-- The wording of a problem. -/
def message : PlayerProblem → String
  | notMapping _ => "Player data must be an object"
  | noId => "Player data must include playerId"

/-- The details of a problem. -/
def details : PlayerProblem → Value
  | notMapping kind => .record [("type", .text kind)]
  | noId => .record [("field", .text "playerId")]

end PlayerProblem

/-- The name of a player. -/
def playerId (player : Value) : Value := (player.get? "playerId").getD .null

/-- Why a value is no data of a player, if it is none. -/
def playerProblem? (player : Value) : Option PlayerProblem :=
  if !player.isMap then some (.notMapping player.kindName)
  else if (playerId player).isNull then some .noId
  else none

/-! ### Promotions -/

/-- What a player gets of a selected rule: its promotion with the name of the rule and the time. -/
def Rule.payload (r : Rule) (now : DateTime) : Entries :=
  Entries.insert (.text "selectedAt") (.text now.iso)
    (Entries.insert (.text "ruleId") (.text r.id) r.promotion)

/-! ### Engines -/

/-- An engine. -/
structure Engine where
  /-- The rules in force. -/
  store : RuleStore
  /-- The gates, in the order in which they are asked. -/
  gates : List Gate := [.window .running, .pass]
  /-- The strategy. -/
  strategy : Strategy := .priority
  /-- The draws that are left. -/
  draws : Draws

/-- The outcome of a selection. -/
structure Selected where
  /-- The engine after it. -/
  engine : Engine
  /-- The promotion, if there is one. -/
  promotion : Option Entries
  /-- The notices given. -/
  notices : List Notice

/-- The choice of a rule. -/
structure Choice where
  /-- The rule, if there is one. -/
  rule : Option Rule
  /-- How many rules were eligible. -/
  eligible : Nat
  /-- The draws that are left. -/
  draws : Draws

namespace Engine

/-- The rules in force. -/
def rules (e : Engine) : List Rule := e.store.rules

/-- The account. -/
def activity (e : Engine) : Activity := e.store.activity

/-- Replaces the source of the rules; those in force stay. -/
def withSource (e : Engine) (source : RuleSource) : Engine :=
  { e with store := { e.store with source } }

/-- Changes the metrics of the service. -/
def withCollector (e : Engine) (f : Collector → Collector) : Engine :=
  { e with store := { e.store with activity :=
    { e.activity with collector := e.activity.collector.map f } } }

/-- Enters a selection into the account. -/
def record (e : Engine) (hit : Bool) (elapsed : Magnitude) : Engine :=
  { e with store := { e.store with activity := e.activity.record hit (.finite false elapsed) } }

/-- Loads the rules. -/
def load (e : Engine) (now : DateTime) : Engine × Bool × List Notice :=
  let loaded := e.store.load now
  ({ e with store := loaded.store }, loaded.success, loaded.notices)

/-- Reloads the rules. -/
def reload (e : Engine) (now : DateTime) : Engine × ReloadReport × List Notice :=
  let (loaded, report) := e.store.reload now
  ({ e with store := loaded.store }, report,
    loaded.notices ++ [.reloadRequested report.success report.message])

/-- A summary of the account. -/
def snapshot (e : Engine) : Snapshot := e.activity.snapshot e.rules.length

/-- The choice of a rule for a player at a time, once the log knows the player by name. -/
def choose (e : Engine) (now : DateTime) (player : Value) : Traced Choice := do
  let _ ← Traced.ofExcept (playerId player).display?
  let eligible ← eligibleRules e.gates now player e.rules
  let (rule, draws) ← Traced.ofExcept (e.strategy.select eligible e.draws player)
  return { rule, eligible := eligible.length, draws }

/-- The notice on a choice. -/
def choiceNotice (e : Engine) (c : Choice) : Notice :=
  match c.rule with
  | some r => .selected r.id c.eligible
  | none => .noMatch e.rules.length

/-- Selects a promotion for a player at a time, in some milliseconds. -/
def select (e : Engine) (now : DateTime) (elapsed : Magnitude) (player : Value) : Selected :=
  match playerProblem? player with
  | some problem =>
    { engine := e.record false elapsed
      promotion := none
      notices := [.invalidPlayer problem.message problem.details] }
  | none =>
    let choice := e.choose now player
    match choice.outcome with
    | .ok c =>
      { engine := { e.record c.rule.isSome elapsed with draws := c.draws }
        promotion := c.rule.map (·.payload now)
        notices := choice.notices ++ [e.choiceNotice c] }
    | .error f =>
      { engine := e.record false elapsed
        promotion := none
        notices := choice.notices ++
          [.selectionFailed Refusal.Kind.internal.code f.message] }

end Engine
end OfferRules

import OfferRules.Engine.Basic
import OfferRules.Json.Bytes
import OfferRules.Service.Handling

/-!
# The service of promotions

The service of promotions selects promotions for players whose data callers send, reloads its
rules on demand, and shows its rules and a summary of its account.  When it starts it loads its
rules; it starts also if this fails, without rules.

## Main definitions

* `promotionReply`, `reloadReply`, `rulesReply`, `summaryReply` — the replies of its endpoints.
* `PromotionsService`, `PromotionsService.make`, `PromotionsService.start` — the service.
-/

namespace OfferRules

instance : Metered Engine where
  collector e := e.activity.collector.getD (.ofService promotionsName)
  adjust f e := e.withCollector f

/-- A service whose state is an engine. -/
abbrev PromotionsService := Service Engine

namespace PromotionsService

/-! ### Endpoints -/

/-- The title of the service. -/
def title : String := titled promotionsName ++ " Service"

/-- The reply that introduces the service. -/
def rootReply (_ : Call) (e : Engine) : Reply Engine :=
  { state := e
    ending := .answered (.document 200 (.record [("service", .text promotionsName),
      ("message", .text (Service.describe title)), ("version", .text serviceVersion),
      ("capabilities", .list [.text "rule_engine", .text "hot_reload", .text "metrics"])])) }

/-- The refusal of data that are no object. -/
def noObject : Refusal :=
  .make .validation .null
    (some (.text "Invalid request body. Expected JSON object with player data.")) .null .null

/-- The name of the player at work on some data. -/
def playerAtWork? (player : Value) : Option Text :=
  match playerProblem? player with
  | some _ => none
  | none => (playerId player).display?.toOption

/-- The answer with a promotion. -/
def promotionAnswer (now : DateTime) (promotion : Option Entries) : Except Fault Http.Response :=
  Http.Response.payload (.record [("promotion", match promotion with
      | some es => .map es
      | none => .null),
    ("timestamp", .text now.iso)])

/-- The reply with the promotion for a player. -/
def selectionReply (o : Occasion) (e : Engine) (player : Value) : Reply Engine :=
  let selected := e.select o.now o.selection player
  { state := selected.engine
    events := selected.notices.map Notice.logEvent
    player := playerAtWork? player
    ending := .ofExcept (promotionAnswer o.now selected.promotion) }

/-- The data of a player in a body, if it is an object; a body that is too deep to be read is a
fault. -/
def playerOf? (depth : Nat) (body : List UInt8) : Except Fault (Option Value) :=
  match Json.readBytes depth body with
  | .ok v => .ok (if v.isMap then some v else none)
  | .error .malformed => .ok none
  | .error (.nesting object) => .error (.deepNesting object)

/-- The reply to a question for a promotion. -/
def promotionReply (call : Call) (e : Engine) : Reply Engine :=
  match playerOf? call.occasion.depth call.request.body with
  | .ok (some player) => selectionReply call.occasion e player
  | .ok none => { state := e, ending := .refused noObject }
  | .error f => { state := e, ending := .failed f }

/-- The reply with a summary of the account. -/
def summaryReply (_ : Call) (e : Engine) : Reply Engine :=
  { state := e, ending := .ofExcept (Http.Response.payload e.snapshot.toValue) }

/-- The reply to a call for a reload. -/
def reloadReply (call : Call) (e : Engine) : Reply Engine :=
  let (after, report, notices) := e.reload call.occasion.now
  { state := after
    events := notices.map Notice.logEvent
    ending := .ofExcept (Http.Response.payload report.toValue) }

/-- What the list of rules shows of a rule. -/
def ruleSummary (r : Rule) : Value :=
  .record [("id", .text r.id), ("priority", .number r.priority), ("logic", .text r.logic),
    ("conditionCount", .int r.conditions.length), ("hasTimeWindow", .bool r.window.isSome),
    ("promotion", .map r.promotion)]

/-- The reply with the rules in force. -/
def rulesReply (_ : Call) (e : Engine) : Reply Engine :=
  { state := e
    ending := .ofExcept (Http.Response.payload (.record [("rules", .list (e.rules.map ruleSummary)),
      ("total", .int e.rules.length)])) }

/-- The endpoints of the service. -/
def endpoints : List (Endpoint Engine) :=
  [.only "GET" "/" rootReply, .only "POST" "/promotion" promotionReply,
    .only "GET" "/metrics" summaryReply, .only "POST" "/reload-rules" reloadReply,
    .only "GET" "/rules" rulesReply]

/-- What the service tells of its health. -/
def details (e : Engine) : Except Fault Entries :=
  .ok [(.text "rulesLoaded", .int e.rules.length)]

/-! ### Starting -/

/-- The gate between groups of players that settings name. -/
def gateOf (c : PromotionsConfig) : Except Fault Gate :=
  if c.gate = "hash_bucket" then Gate.buckets? c.bucketCount Gate.bucketsKey
  else if c.gate = "passthrough" then .ok .pass
  else .error (.unknownGate c.gate)

/-- An engine by settings, with a source of rules that it has not loaded. -/
def engineOf (c : PromotionsConfig) (source : RuleSource) (draws : Draws) :
    Except Fault Engine := do
  let gate ← gateOf c
  let strategy ← Strategy.named? c.strategy
  return { store := { source, activity := { collector := some (.ofService promotionsName) } }
           gates := [.window .running, gate], strategy, draws }

/-- The service by settings, before it has loaded its rules. -/
def make (c : PromotionsConfig) (source : RuleSource) (draws : Draws) :
    Except Fault PromotionsService := do
  let leastSeverity ← threshold c.service.logLevel
  let state ← engineOf c source draws
  return { name := promotionsName, config := c.service, leastSeverity, endpoints, details, state }

/-- The service by settings, with the log of its start. -/
def start (c : PromotionsConfig) (source : RuleSource) (draws : Draws) (now : DateTime) :
    Except Fault (PromotionsService × List LogRecord) := do
  let service ← make c source draws
  let (state, _, notices) := service.state.load now
  return ({ service with state }, notices.map fun n => ⟨{}, n.logEvent⟩)

end PromotionsService
end OfferRules

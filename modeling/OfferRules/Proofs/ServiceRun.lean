import OfferRules.Proofs.Accounting
import OfferRules.Proofs.Outcome
import OfferRules.Proofs.ReadingDepth
import OfferRules.Proofs.Routing
import OfferRules.Service.Promotions

/-!
# Runs of the service of promotions

Requests of any kind reach the service of promotions, and in between the file of its rules is
rewritten.  A question for a promotion is entered into the account of the engine if its body is an
object, and counted as an error of the caller if it is not; a body too deep for its reader is
neither.  No other request changes one of the two counts, and whatever is loaded, the gauge of the
service shows how many rules are in force.

## Main definitions

* `PromotionsService.Event` — a request, or new contents of the file of rules.
* `PromotionsService.step`, `PromotionsService.run` — the service after one event and after several.
* `Collector.Tells`, `Engine.Shows` — what the metrics and the account say.
* `PromotionsService.IsMild` — what all endpoints but one may do.

## Main results

* `PromotionsService.playerOf?_eq` — the data of a player in a body.
* `PromotionsService.reply_cases` — **what a request may come to.**
* `PromotionsService.shows_handle`, `PromotionsService.shows_run` — **one request and a run keep the
  counts.**
-/

namespace OfferRules

/-! ### Metrics -/

/-- Under what the refusals of data are counted. -/
def validationKey : ErrorKey := ⟨Refusal.Kind.validation.code, promotionsName⟩

/-- The metrics of the service of promotions tell of some refusals of data and of some rules in
force. -/
structure Collector.Tells (c : Collector) (refusals rules : Nat) : Prop where
  /-- They are those of the service of promotions. -/
  service : c.service = promotionsName
  /-- The refusals. -/
  errors : c.errors.count validationKey = refusals
  /-- The rules. -/
  loaded : ∃ m, c.promotions = some m ∧ m.loaded = .int rules

namespace Collector.Tells

variable {c : Collector} {refusals rules : Nat}

theorem ofService : (Collector.ofService promotionsName).Tells 0 0 :=
  ⟨rfl, rfl, {}, by rw [Collector.ofService, if_pos rfl], rfl⟩

theorem recordError (h : c.Tells refusals rules) (code : String) :
    (c.recordError code).Tells
      (refusals + if code = Refusal.Kind.validation.code then 1 else 0) rules := by
  refine ⟨h.service, ?_, h.loaded⟩
  show (c.errors.add ⟨code, c.service⟩).count validationKey = _
  rw [Tally.count_add, h.errors, h.service]
  simp [validationKey]

theorem closing (h : c.Tells refusals rules) {f : Collector → Collector} (hf : IsClosing f) :
    (f c).Tells refusals rules := by
  rcases hf with ⟨method, path, status, seconds, rfl⟩ | rfl
  · exact ⟨h.service, h.errors, h.loaded⟩
  · exact h.recordError faultCode

theorem recordSelection (h : c.Tells refusals rules) (hit : Bool) (seconds : Double) :
    (c.recordSelection hit seconds).Tells refusals rules := by
  obtain ⟨m, hm, hloaded⟩ := h.loaded
  refine ⟨h.service, h.errors, ?_⟩
  rw [promotions_recordSelection, hm]
  exact ⟨_, rfl, hloaded⟩

theorem recordLoad (h : c.Tells refusals rules) (success : Bool) (loaded : Nat) :
    (c.recordLoad success (.int loaded)).Tells refusals loaded := by
  obtain ⟨m, hm, -⟩ := h.loaded
  refine ⟨h.service, h.errors, ?_⟩
  rw [promotions_recordLoad, hm]
  exact ⟨_, rfl, rfl⟩

end Collector.Tells

/-! ### The account -/

namespace Engine

/-- The account of an engine says how many selections there were, and its metrics tell of some
refusals and of the rules that are in force. -/
structure Shows (e : Engine) (evaluations refusals : Nat) : Prop where
  /-- The selections. -/
  evaluations : e.activity.evaluations = evaluations
  /-- The refusals and the rules. -/
  collector : ∃ c, e.activity.collector = some c ∧ c.Tells refusals e.rules.length

namespace Shows

variable {e : Engine} {evaluations refusals : Nat}

theorem withCollector (h : e.Shows evaluations refusals) {f : Collector → Collector} {n : Nat}
    (hf : ∀ c, c.Tells refusals e.rules.length → (f c).Tells n e.rules.length) :
    (e.withCollector f).Shows evaluations n := by
  obtain ⟨c, hc, htells⟩ := h.collector
  refine ⟨h.evaluations, f c, ?_, hf c htells⟩
  show e.activity.collector.map f = some (f c)
  rw [hc]
  rfl

theorem select (h : e.Shows evaluations refusals) (now : DateTime) (elapsed : Magnitude)
    (x : Value) : (e.select now elapsed x).engine.Shows (evaluations + 1) refusals := by
  obtain ⟨c, hc, htells⟩ := h.collector
  have hact := select_activity e now elapsed x
  constructor
  · rw [hact]
    exact congrArg (· + 1) h.evaluations
  · rw [hact, select_rules, Activity.record, hc]
    exact ⟨_, rfl, htells.recordSelection _ _⟩

theorem load (h : e.Shows evaluations refusals) (now : DateTime) :
    (e.load now).1.Shows evaluations refusals := by
  obtain ⟨c, hc, htells⟩ := h.collector
  have hact := load_activity e now
  constructor
  · rw [hact]
    exact h.evaluations
  · rw [hact, Activity.markLoad, hc]
    exact ⟨_, rfl, htells.recordLoad _ _⟩

end Shows
end Engine

/-! ### Questions for promotions -/

namespace Http.Request

/-- Whether a request asks for a promotion. -/
def asks (r : Request) : Bool := r.method == "POST" && r.path == "/promotion"

/-- Whether the body of a request is a JSON object. -/
def hasObject (r : Request) : Bool := (Json.readBytes? r.body).any Value.isMap

theorem hasObject_eq (r : Request) :
    r.hasObject = ((Json.readBytes? r.body).filter Value.isMap).isSome := by
  unfold hasObject
  cases Json.readBytes? r.body with
  | none => rfl
  | some v => cases h : v.isMap <;> simp [Option.filter_some, h]

theorem asks_iff {r : Request} : r.asks = true ↔ r.method = "POST" ∧ r.path = "/promotion" := by
  simp [asks]

theorem asks_of_method {r : Request} (h : r.method ≠ "POST") : r.asks = false := by
  rw [Bool.eq_false_iff, Ne, asks_iff]
  exact fun hasks => h hasks.1

theorem asks_of_path {r : Request} (h : r.path ≠ "/promotion") : r.asks = false := by
  rw [Bool.eq_false_iff, Ne, asks_iff]
  exact fun hasks => h hasks.2

end Http.Request

namespace PromotionsService

/-- **The data of a player in a body** that is not too deep are its value, if this is an object; a
body that is too deep is a fault. -/
theorem playerOf?_eq (depth : Nat) (body : List UInt8) :
    (Json.isTooDeep depth body = true ∧ ∃ object,
        playerOf? depth body = .error (.deepNesting object)) ∨
      (Json.isTooDeep depth body = false ∧
        playerOf? depth body = .ok ((Json.readBytes? body).filter Value.isMap)) := by
  unfold playerOf?
  cases hread : Json.readBytes depth body with
  | ok v =>
    have hdeep : Json.isTooDeep depth body = false := by rw [Json.isTooDeep, hread]
    refine Or.inr ⟨hdeep, ?_⟩
    rw [← Json.toOption_readBytes hdeep, hread]
    show _ = Except.ok ((some v).filter Value.isMap)
    rw [Option.filter_some]
  | error p =>
    cases p with
    | malformed =>
      have hdeep : Json.isTooDeep depth body = false := by rw [Json.isTooDeep, hread]
      refine Or.inr ⟨hdeep, ?_⟩
      rw [← Json.toOption_readBytes hdeep, hread]
      rfl
    | nesting object => exact Or.inl ⟨by rw [Json.isTooDeep, hread], object, rfl⟩

/-! ### Replies -/

/-- What all endpoints may do but the one for promotions: they refuse nothing, and leave the state
as it is, count a health check or load the rules. -/
def IsMild (e : Engine) (reply : Reply Engine) : Prop :=
  (∀ refusal, reply.ending ≠ .refused refusal) ∧
    (reply.state = e ∨ (∃ outcome, reply.state = e.withCollector (·.recordHealthCheck outcome)) ∨
      ∃ now, reply.state = (e.load now).1)

theorem ofExcept_ne_refused (x : Except Fault Http.Response) (refusal : Refusal) :
    Ending.ofExcept x ≠ .refused refusal := by
  cases x <;> exact nofun

theorem isMild_health (s : Service Engine) (call : Call) (e : Engine) :
    IsMild e (s.healthReply call e) := by
  unfold Service.healthReply
  split
  · exact ⟨ofExcept_ne_refused _, Or.inr (Or.inl ⟨_, rfl⟩)⟩
  · exact ⟨nofun, Or.inr (Or.inl ⟨_, rfl⟩)⟩

theorem isMild_reload (call : Call) (e : Engine) : IsMild e (reloadReply call e) := by
  refine ⟨?_, Or.inr (Or.inr ⟨call.occasion.now, rfl⟩)⟩
  exact ofExcept_ne_refused (Http.Response.payload (e.reload call.occasion.now).2.1.toValue)

/-- The endpoints of the service other than that for promotions are mild. -/
theorem isMild_endpoint {endpoint : Endpoint Engine} (h : endpoint ∈ endpoints) :
    endpoint = .only "POST" "/promotion" promotionReply ∨
      ∃ method path reply, endpoint = .only method path reply ∧ path ≠ "/promotion" ∧
        ∀ call e, IsMild e (reply call e) := by
  rcases List.mem_cons.mp h with rfl | h
  · exact Or.inr ⟨_, _, _, rfl, by decide, fun call e => ⟨nofun, Or.inl rfl⟩⟩
  rcases List.mem_cons.mp h with rfl | h
  · exact Or.inl rfl
  rcases List.mem_cons.mp h with rfl | h
  · exact Or.inr ⟨_, _, _, rfl, by decide, fun call e => ⟨ofExcept_ne_refused _, Or.inl rfl⟩⟩
  rcases List.mem_cons.mp h with rfl | h
  · exact Or.inr ⟨_, _, _, rfl, by decide, isMild_reload⟩
  obtain rfl := List.mem_singleton.mp h
  exact Or.inr ⟨_, _, _, rfl, by decide, fun call e => ⟨ofExcept_ne_refused _, Or.inl rfl⟩⟩

/-- **What a request may come to**: if it asks for a promotion, the reply is that of the endpoint
for promotions, and if it does not, the reply is mild. -/
theorem reply_cases {s : Service Engine} (hs : s.endpoints = endpoints) (o : Occasion)
    (r : Http.Request) :
    (r.asks = true ∧ ∃ part, s.reply o r = promotionReply ⟨o, r, part⟩ s.state) ∨
      (r.asks = false ∧ IsMild s.state (s.reply o r)) := by
  cases hfind : s.allEndpoints.find? (·.admits r) with
  | none =>
    -- the endpoint for promotions is one of them, so the request does not ask for one
    obtain ⟨hstate, answer, hending⟩ := Service.reply_of_find?_eq_none o hfind
    refine Or.inr ⟨?_, by rw [hending]; exact nofun, Or.inl hstate⟩
    rw [Bool.eq_false_iff, Ne, Http.Request.asks_iff]
    intro hasks
    have hmem : Endpoint.only "POST" "/promotion" promotionReply ∈ s.allEndpoints := by
      unfold Service.allEndpoints Service.describedEndpoints
      rw [hs]
      simp [endpoints]
    exact List.find?_eq_none.mp hfind _ hmem (Endpoint.admits_only.mpr hasks)
  | some endpoint =>
    have hadmits := List.find?_some hfind
    rw [Service.reply_of_find? o hfind]
    rcases s.mem_allEndpoints (List.mem_of_find?_eq_some hfind) with
      ⟨answer, path, rfl⟩ | rfl | rfl | hown
    · obtain ⟨hmethod, -⟩ := Service.admits_shown.mp hadmits
      refine Or.inr ⟨Http.Request.asks_of_method ?_, nofun, Or.inl rfl⟩
      rcases hmethod with hget | hhead
      · rw [hget]
        decide
      · rw [hhead]
        decide
    · obtain ⟨hmethod, -⟩ := Endpoint.admits_only.mp hadmits
      exact Or.inr ⟨Http.Request.asks_of_method (by rw [hmethod]; decide), isMild_health s _ _⟩
    · obtain ⟨hmethod, -⟩ := Endpoint.admits_only.mp hadmits
      exact Or.inr ⟨Http.Request.asks_of_method (by rw [hmethod]; decide), nofun, Or.inl rfl⟩
    · rw [hs] at hown
      rcases isMild_endpoint hown with rfl | ⟨method, path, reply, rfl, hpath, hmild⟩
      · exact Or.inl ⟨Http.Request.asks_iff.mpr (Endpoint.admits_only.mp hadmits), _, rfl⟩
      · obtain ⟨-, hp⟩ := Endpoint.admits_only.mp hadmits
        exact Or.inr ⟨Http.Request.asks_of_path (by rwa [hp]), hmild _ _⟩

/-! ### One event -/

/-- What happens around the service. -/
inductive Event where
  /-- The file of its rules is rewritten. -/
  | rewrite (source : RuleSource)
  /-- A request reaches it. -/
  | request (o : Occasion) (r : Http.Request)

namespace Event

/-- Whether an event is a question for a promotion whose body is an object. -/
def isQuestion : Event → Bool
  | rewrite _ => false
  | request _ r => r.asks && r.hasObject

/-- Whether an event is a question for a promotion whose body is no object. -/
def isMistake : Event → Bool
  | rewrite _ => false
  | request _ r => r.asks && !r.hasObject

/-- Whether an event is a question for a promotion whose body is too deep for its reader. -/
def isUnread : Event → Bool
  | rewrite _ => false
  | request o r => r.asks && Json.isTooDeep o.depth r.body

end Event

/-- The service after an event. -/
def step (s : Service Engine) : Event → Service Engine
  | .rewrite source => { s with state := s.state.withSource source }
  | .request o r => (s.handle o r).service

/-- The service after some events. -/
def run (s : Service Engine) (events : List Event) : Service Engine := events.foldl step s

theorem run_cons (s : Service Engine) (ev : Event) (rest : List Event) :
    run s (ev :: rest) = run (step s ev) rest := rfl

/-- An event changes the state of the service only. -/
theorem step_eq (s : Service Engine) (ev : Event) :
    step s ev = { s with state := (step s ev).state } := by
  cases ev with
  | rewrite source => rfl
  | request o r =>
    obtain ⟨f, -, heq⟩ := Service.handle_service s o r
    show (s.handle o r).service = { s with state := (s.handle o r).service.state }
    rw [heq]

/-- A run changes the state of the service only. -/
theorem run_eq (s : Service Engine) (events : List Event) :
    run s events = { s with state := (run s events).state } := by
  induction events generalizing s with
  | nil => rfl
  | cons ev rest ih =>
    rw [run_cons, ih, step_eq s ev]

/-! ### The counts -/

variable {s : Service Engine} {e : Engine} {evaluations refusals : Nat}

/-- A mild reply changes neither count. -/
theorem shows_of_isMild (h : e.Shows evaluations refusals) {reply : Reply Engine}
    (hmild : IsMild e reply) (s : Service Engine) (id : String) :
    (s.settle id reply).state.Shows evaluations refusals := by
  obtain ⟨hending, hstate⟩ := hmild
  rw [Service.settle_state s id hending]
  rcases hstate with hsame | ⟨outcome, hcheck⟩ | ⟨now, hload⟩
  · rwa [hsame]
  · rw [hcheck]
    exact h.withCollector fun c hc => ⟨hc.service, hc.errors, hc.loaded⟩
  · rw [hload]
    exact h.load now

/-- A question for a promotion is counted by what its body is. -/
theorem shows_promotionReply (h : e.Shows evaluations refusals) (s : Service Engine)
    (id : String) (call : Call) (hasks : call.request.asks = true) :
    let ev := Event.request call.occasion call.request
    (s.settle id (promotionReply call e)).state.Shows
      (evaluations + if ev.isQuestion && !ev.isUnread then 1 else 0)
      (refusals + if ev.isMistake && !ev.isUnread then 1 else 0) := by
  intro ev
  have hquestion : ev.isQuestion = call.request.hasObject := by simp [ev, Event.isQuestion, hasks]
  have hmistake : ev.isMistake = !call.request.hasObject := by simp [ev, Event.isMistake, hasks]
  have hunread : ev.isUnread = Json.isTooDeep call.occasion.depth call.request.body := by
    simp [ev, Event.isUnread, hasks]
  rw [hquestion, hmistake, hunread]
  unfold promotionReply
  rcases playerOf?_eq call.occasion.depth call.request.body with
    ⟨hdeep, object, hplayer⟩ | ⟨hdeep, hplayer⟩
  · rw [hplayer, hdeep, Service.settle_state]
    · simpa using h
    · exact nofun
  · rw [hplayer, hdeep, Http.Request.hasObject_eq]
    cases (Json.readBytes? call.request.body).filter Value.isMap with
    | none =>
      dsimp only
      rw [Service.settle_state_of_refused s id rfl]
      exact h.withCollector fun c hc => hc.recordError _
    | some player =>
      dsimp only
      rw [Service.settle_state s id (ofExcept_ne_refused _)]
      exact h.select _ _ _

/-- **One request keeps the counts.** -/
theorem shows_handle (hs : s.endpoints = endpoints) (h : s.state.Shows evaluations refusals)
    (o : Occasion) (r : Http.Request) :
    let ev := Event.request o r
    (s.handle o r).service.state.Shows
      (evaluations + if ev.isQuestion && !ev.isUnread then 1 else 0)
      (refusals + if ev.isMistake && !ev.isUnread then 1 else 0) := by
  intro ev
  obtain ⟨f, hf, heq⟩ := Service.handle_service s o r
  rw [heq]
  refine Engine.Shows.withCollector ?_ fun c hc => hc.closing hf
  -- the inner layers leave the state of the settled reply, unless they answer a question for leave
  rcases Service.respond_state s o (Service.requestId o r) r with ⟨hoptions, hstate⟩ | hstate
  · have hasks : r.asks = false := Http.Request.asks_of_method (by rw [hoptions]; decide)
    rw [hstate]
    simpa [ev, Event.isQuestion, Event.isMistake, hasks] using h
  · rw [hstate]
    rcases reply_cases hs o r with ⟨hasks, part, hreply⟩ | ⟨hasks, hmild⟩
    · rw [hreply]
      exact shows_promotionReply h s _ _ hasks
    · simpa [ev, Event.isQuestion, Event.isMistake, hasks] using shows_of_isMild h hmild s _

/-- One event keeps the counts. -/
theorem shows_step (hs : s.endpoints = endpoints) (h : s.state.Shows evaluations refusals)
    (ev : Event) : (step s ev).state.Shows
      (evaluations + if ev.isQuestion && !ev.isUnread then 1 else 0)
      (refusals + if ev.isMistake && !ev.isUnread then 1 else 0) := by
  cases ev with
  | rewrite source => exact ⟨h.evaluations, h.collector⟩
  | request o r => exact shows_handle hs h o r

/-- **A run keeps the counts.** -/
theorem shows_run (hs : s.endpoints = endpoints) (h : s.state.Shows evaluations refusals)
    (events : List Event) : (run s events).state.Shows
      (evaluations + events.countP fun ev => ev.isQuestion && !ev.isUnread)
      (refusals + events.countP fun ev => ev.isMistake && !ev.isUnread) := by
  induction events generalizing s evaluations refusals with
  | nil => exact h
  | cons ev rest ih =>
    have hends : (step s ev).endpoints = endpoints := by rw [step_eq, hs]
    rw [run_cons, List.countP_cons, List.countP_cons, Nat.add_comm (rest.countP _),
      Nat.add_comm (rest.countP _), ← Nat.add_assoc, ← Nat.add_assoc]
    exact ih hends (shows_step hs h ev)

/-- The metrics of an engine are those that its account is passed on to. -/
theorem collector_eq {c : Collector} (h : e.activity.collector = some c) :
    Metered.collector e = c := by
  show e.activity.collector.getD (.ofService promotionsName) = c
  rw [h]
  rfl

theorem count_collector (h : s.state.Shows evaluations refusals) :
    s.collector.errors.count validationKey = refusals := by
  obtain ⟨c, hc, htells⟩ := h.collector
  rw [Service.collector, collector_eq hc, htells.errors]

/-- A service that is started has the endpoints and the details of the service of promotions, and
neither count is other than zero. -/
theorem start_eq_ok {c : PromotionsConfig} {source : RuleSource} {draws : Draws} {now : DateTime}
    {log : List LogRecord} (h : start c source draws now = .ok (s, log)) :
    s.endpoints = endpoints ∧ s.details = details ∧ s.state.Shows 0 0 := by
  obtain ⟨made, hmake, hstart⟩ := bind_eq_ok.mp h
  obtain ⟨level, -, hmake⟩ := bind_eq_ok.mp hmake
  obtain ⟨engine, hengine, hmake⟩ := bind_eq_ok.mp hmake
  obtain ⟨gate, -, hengine⟩ := bind_eq_ok.mp hengine
  obtain ⟨strategy, -, hengine⟩ := bind_eq_ok.mp hengine
  obtain rfl := Except.ok.inj hengine
  obtain rfl := Except.ok.inj hmake
  obtain ⟨rfl, -⟩ := Prod.mk.inj (Except.ok.inj hstart)
  exact ⟨rfl, rfl, Engine.Shows.load ⟨rfl, _, rfl, .ofService⟩ now⟩

end PromotionsService
end OfferRules

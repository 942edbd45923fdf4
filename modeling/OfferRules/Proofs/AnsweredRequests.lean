import OfferRules.Proofs.Outcome
import OfferRules.Proofs.Views

/-!
# Counting and naming requests

The layer that counts a request and names its answer gets to it after the inner layers have given
their answer.  So it counts each request that they answer, once and under its own method, path and
status, whatever the answer is: that of an endpoint, a refusal, leave for another origin, or that
there is no such endpoint.  A fault passes this layer by, and the answer that the outermost layer
gives instead is neither counted nor named.

Endpoints leave the counts of requests to this layer.  This is a property of the endpoints that a
service has of its own, which the service of promotions has and every service whose endpoints leave
their state alone.

## Main definitions

* `Metered.Keeps`, `Service.LeavesRequests` — nothing is counted as a request.
* `Service.Incident`, `Service.meet` — what happens to a service.
* `Exchange`, `Service.exchanges` — the requests with the states of the service that they meet.
* `Exchange.Fails` — a request that ends in a fault.

## Main results

* `PromotionsService.leavesRequests_of_start`, `Service.leavesRequests_of_state_eq` — services that
  leave the counts alone.
* `Service.count_handle` — the counts after one request.
* `Exchange.fault_eq_some_iff` — which requests end in a fault.
* `Service.run_accounts` — **what is counted and named in a run.**
* `PromotionsService.count_run_of_start` — what the service of promotions counts from its start on.
-/

namespace OfferRules

variable {σ : Type}

/-! ### States that differ in no count of requests -/

section Keeps

variable [Metered σ]

/-- A later state has the counts of requests of an earlier one, and some property. -/
structure Metered.Keeps (P : σ → Prop) (before after : σ) : Prop where
  /-- The property. -/
  holds : P after
  /-- The counts. -/
  requests : (Metered.collector after).requests = (Metered.collector before).requests

theorem Metered.Keeps.trans {P : σ → Prop} {x y z : σ} (hxy : Metered.Keeps P x y)
    (hyz : Metered.Keeps P y z) : Metered.Keeps P x z :=
  ⟨hyz.holds, hyz.requests.trans hxy.requests⟩

theorem Metered.Keeps.refl {P : σ → Prop} {x : σ} (h : P x) : Metered.Keeps P x x := ⟨h, rfl⟩

/-- A service leaves the counts of requests to its layers: in all states with some property metrics
can be changed, and no endpoint of the service changes these counts. -/
structure Service.LeavesRequests (P : σ → Prop) (s : Service σ) : Prop where
  /-- A change of the metrics leaves the property. -/
  holds_adjust : ∀ f x, P x → P (Metered.adjust f x)
  /-- A change of the metrics takes effect. -/
  collector_adjust : ∀ f x, P x → Metered.collector (Metered.adjust f x) = f (Metered.collector x)
  /-- The endpoints leave the property and the counts. -/
  reply : ∀ e ∈ s.endpoints, ∀ call x, P x → Metered.Keeps P x (e.reply call x).state

end Keeps

/-! ### The service of promotions -/

/-- The account of an engine is passed on to metrics. -/
def Engine.IsMetered (e : Engine) : Prop := ∃ c, e.activity.collector = some c

namespace Engine

variable {e : Engine}

/-- What changes the metrics, but no count of requests. -/
theorem keeps_of_map (h : e.IsMetered) {after : Engine} {f : Collector → Collector}
    (hafter : after.activity.collector = e.activity.collector.map f)
    (hf : ∀ c, (f c).requests = c.requests) : Metered.Keeps IsMetered e after := by
  obtain ⟨c, hc⟩ := h
  have hmap : after.activity.collector = some (f c) := by rw [hafter, hc, Option.map_some]
  refine ⟨⟨_, hmap⟩, ?_⟩
  rw [PromotionsService.collector_eq hmap, PromotionsService.collector_eq hc, hf]

/-- New contents of the file of rules change no metrics. -/
theorem keeps_withSource (h : e.IsMetered) (source : RuleSource) :
    Metered.Keeps IsMetered e (e.withSource source) := ⟨h, rfl⟩

theorem keeps_select (h : e.IsMetered) (now : DateTime) (elapsed : Magnitude) (x : Value) :
    Metered.Keeps IsMetered e (e.select now elapsed x).engine := by
  have hact := congrArg Activity.collector (select_activity e now elapsed x)
  exact keeps_of_map h hact fun _ => rfl

theorem keeps_load (h : e.IsMetered) (now : DateTime) :
    Metered.Keeps IsMetered e (e.load now).1 := by
  have hact := congrArg Activity.collector (load_activity e now)
  exact keeps_of_map h hact fun _ => rfl

end Engine

namespace PromotionsService

theorem keeps_of_isMild {e : Engine} (h : e.IsMetered) {reply : Reply Engine}
    (hmild : IsMild e reply) : Metered.Keeps Engine.IsMetered e reply.state := by
  obtain ⟨-, hsame | ⟨outcome, hcheck⟩ | ⟨now, hload⟩⟩ := hmild
  · rw [hsame]
    exact .refl h
  · rw [hcheck]
    exact Engine.keeps_of_map h (f := (·.recordHealthCheck outcome)) rfl fun _ => rfl
  · rw [hload]
    exact Engine.keeps_load h now

theorem keeps_promotionReply {e : Engine} (h : e.IsMetered) (call : Call) :
    Metered.Keeps Engine.IsMetered e (promotionReply call e).state := by
  unfold promotionReply
  split
  · exact Engine.keeps_select h _ _ _
  · exact .refl h
  · exact .refl h

/-- The service of promotions leaves the counts of requests to its layers. -/
theorem leavesRequests {s : Service Engine} (hs : s.endpoints = endpoints) :
    s.LeavesRequests Engine.IsMetered where
  holds_adjust f e h := by
    obtain ⟨c, hc⟩ := h
    exact ⟨f c, congrArg (Option.map f) hc⟩
  collector_adjust f e h := by
    obtain ⟨c, hc⟩ := h
    have hadjusted : (Metered.adjust f e).activity.collector = some (f c) :=
      congrArg (Option.map f) hc
    rw [collector_eq hadjusted, collector_eq hc]
  reply e he call x hx := by
    rw [hs] at he
    rcases isMild_endpoint he with rfl | ⟨method, path, reply, rfl, -, hmild⟩
    · exact keeps_promotionReply hx call
    · exact keeps_of_isMild hx (hmild call x)

/-- It does so from its start on. -/
theorem leavesRequests_of_start {s : Service Engine} {c : PromotionsConfig} {source : RuleSource}
    {draws : Draws} {now : DateTime} {log : List LogRecord}
    (h : start c source draws now = .ok (s, log)) :
    s.LeavesRequests Engine.IsMetered ∧ s.state.IsMetered := by
  obtain ⟨hends, -, -, c, hc, -⟩ := start_eq_ok h
  exact ⟨leavesRequests hends, c, hc⟩

end PromotionsService

namespace Service

/-- Services whose endpoints leave the metrics alone. -/
theorem leavesRequests_of_state_eq {s : Service Collector}
    (h : ∀ e ∈ s.endpoints, ∀ call c, (e.reply call c).state = c) :
    s.LeavesRequests fun _ => True := by
  refine ⟨fun _ _ _ => trivial, fun _ _ _ => rfl, fun e he call c _ => ?_⟩
  rw [h e he call c]
  exact .refl trivial

/-! ### One request -/

variable [Metered σ] {P : σ → Prop} {s : Service σ}

namespace LeavesRequests

variable (hs : s.LeavesRequests P)

include hs

/-- A change of other metrics leaves the counts. -/
theorem keeps_adjust (f : Collector → Collector) (hf : ∀ c, (f c).requests = c.requests) {x : σ}
    (hx : P x) : Metered.Keeps P x (Metered.adjust f x) := by
  refine ⟨hs.holds_adjust f x hx, ?_⟩
  rw [hs.collector_adjust f x hx, hf]

theorem keeps_health (call : Call) {x : σ} (hx : P x) :
    Metered.Keeps P x (s.healthReply call x).state := by
  unfold healthReply
  split
  · exact hs.keeps_adjust (·.recordHealthCheck "ok") (fun _ => rfl) hx
  · exact hs.keeps_adjust (·.recordHealthCheck "error") (fun _ => rfl) hx

theorem keeps_reply (hx : P s.state) (o : Occasion) (r : Http.Request) :
    Metered.Keeps P s.state (s.reply o r).state := by
  cases hfind : s.allEndpoints.find? (·.admits r) with
  | none =>
    obtain ⟨hstate, -⟩ := reply_of_find?_eq_none o hfind
    rw [hstate]
    exact .refl hx
  | some e =>
    rw [reply_of_find? o hfind]
    rcases s.mem_allEndpoints (List.mem_of_find?_eq_some hfind) with
      ⟨answer, path, rfl⟩ | rfl | rfl | hown
    · exact .refl hx
    · exact hs.keeps_health _ hx
    · exact .refl hx
    · exact hs.reply e hown _ _ hx

/-- The inner layers leave the counts. -/
theorem keeps_respond (hx : P s.state) (o : Occasion) (id : String) (r : Http.Request) :
    Metered.Keeps P s.state (s.respond o id r).state := by
  have hreply := hs.keeps_reply hx o r
  rcases s.respond_state o id r with ⟨-, hstate⟩ | hstate
  · rw [hstate]
    exact .refl hx
  · rw [hstate]
    cases hending : (s.reply o r).ending with
    | answered answer =>
      rw [settle_state s id (by rw [hending]; exact nofun)]
      exact hreply
    | failed f =>
      rw [settle_state s id (by rw [hending]; exact nofun)]
      exact hreply
    | refused refusal =>
      rw [settle_state_of_refused s id hending]
      exact hreply.trans (hs.keeps_adjust (·.recordError _) (fun _ => rfl) hreply.holds)

end LeavesRequests

/-- Where the inner layers answer, the request is counted and the answer is named. -/
theorem handle_of_ok {o : Occasion} {r : Http.Request} {answer : Http.Response}
    (h : (s.respond o (requestId o r) r).answer = .ok answer) :
    (s.handle o r).fault = none ∧ (s.handle o r).response.status = answer.status ∧
      (s.handle o r).response = answer.withHeader requestIdHeader (requestId o r) ∧
      (s.handle o r).service = ({ s with state := (s.respond o (requestId o r) r).state } :
        Service σ).countRequest o r answer.status := by
  unfold handle
  dsimp only
  rw [h]
  exact ⟨rfl, rfl, rfl, rfl⟩

/-- Where they do not, only an error is counted. -/
theorem handle_of_error {o : Occasion} {r : Http.Request} {f : Fault}
    (h : (s.respond o (requestId o r) r).answer = .error f) :
    (s.handle o r).fault = some f ∧ (s.handle o r).response = faultAnswer ∧
      (s.handle o r).service = ({ s with state := (s.respond o (requestId o r) r).state } :
        Service σ).adjust (·.recordError faultCode) := by
  unfold handle
  dsimp only
  rw [h]
  exact ⟨rfl, rfl, rfl⟩

end Service

/-! ### Exchanges -/

/-- A header that is set is there once. -/
theorem Http.Response.filter_withHeader (answer : Response) (name value : String) :
    (answer.withHeader name value).headers.filter (·.1 == name) = [(name, value)] := by
  unfold withHeader
  rw [List.filter_append, List.filter_filter]
  simp

/-- Under what a request is counted that is answered with a status. -/
def Http.Request.key (r : Http.Request) (status : Nat) : RequestKey :=
  ⟨r.method, r.path, toString status⟩

/-- A request, with its surroundings and the service that it meets. -/
structure Exchange (σ : Type) where
  /-- The service. -/
  service : Service σ
  /-- The surroundings. -/
  occasion : Occasion
  /-- The request. -/
  request : Http.Request

namespace Exchange

variable [Metered σ]

/-- What comes of a request. -/
def outcome (x : Exchange σ) : Outcome σ := x.service.handle x.occasion x.request

/-- Whether a request is answered by the inner layers, and the key is its own. -/
def countsAs (x : Exchange σ) (key : RequestKey) : Bool :=
  x.outcome.fault.isNone && x.request.key x.outcome.response.status == key

/-- A request ends in a fault: it asks for no leave, and its endpoint fails or refuses it in a way
that makes no answer. -/
def Fails (x : Exchange σ) (f : Fault) : Prop :=
  x.service.origins.preflight? x.request = none ∧
    ((x.service.reply x.occasion x.request).ending = .failed f ∨
      ∃ refusal, (x.service.reply x.occasion x.request).ending = .refused refusal ∧
        Service.refusalAnswer (Service.requestId x.occasion x.request) refusal = .error f)

/-- What the inner layers answer. -/
def answer (x : Exchange σ) : Except Fault Http.Response :=
  (x.service.respond x.occasion (Service.requestId x.occasion x.request) x.request).answer

theorem fault_eq_some_iff_answer (x : Exchange σ) (f : Fault) :
    x.outcome.fault = some f ↔ x.answer = .error f := by
  unfold outcome
  cases h : x.answer with
  | ok a =>
    rw [(Service.handle_of_ok h).1]
    exact ⟨nofun, nofun⟩
  | error g =>
    rw [(Service.handle_of_error h).1, Option.some_inj]
    exact ⟨congrArg _, Except.error.inj⟩

theorem exists_answer_of_fault_eq_none {x : Exchange σ} (h : x.outcome.fault = none) :
    ∃ a, x.answer = .ok a := by
  cases hanswer : x.answer with
  | ok a => exact ⟨a, rfl⟩
  | error f =>
    rw [(x.fault_eq_some_iff_answer f).mpr hanswer] at h
    cases h

/-- **Which requests end in a fault.** -/
theorem fault_eq_some_iff (x : Exchange σ) (f : Fault) :
    x.outcome.fault = some f ↔ x.Fails f := by
  rw [fault_eq_some_iff_answer]
  unfold Fails answer Service.respond
  cases x.service.origins.preflight? x.request with
  | some answer => exact ⟨nofun, fun h => nomatch h.1⟩
  | none =>
    dsimp only
    rw [map_eq_error]
    unfold Service.settle
    cases (x.service.reply x.occasion x.request).ending with
    | answered answer => simp
    | failed g => simp
    | refused refusal => simp

/-- A request that the inner layers answer has an answer with its name, which is that which it
brings if it brings one. -/
theorem named_of_fault_eq_none {x : Exchange σ} (h : x.outcome.fault = none) :
    x.outcome.response.headers.filter (·.1 == requestIdHeader)
        = [(requestIdHeader, Service.requestId x.occasion x.request)] ∧
      ∀ name, x.request.header? requestIdHeader = some name →
        Service.requestId x.occasion x.request = name := by
  constructor
  · obtain ⟨answer, hanswer⟩ := exists_answer_of_fault_eq_none h
    rw [outcome, (Service.handle_of_ok hanswer).2.2.1]
    exact Http.Response.filter_withHeader answer _ _
  · intro name hname
    rw [Service.requestId, hname, Option.getD_some]

/-- A request that ends in a fault has the answer without details, which has no name. -/
theorem unnamed_of_fault_eq_some {x : Exchange σ} {f : Fault} (h : x.outcome.fault = some f) :
    x.outcome.response = Service.faultAnswer ∧
      x.outcome.response.headers.filter (·.1 == requestIdHeader) = [] := by
  have hresponse : x.outcome.response = Service.faultAnswer :=
    (Service.handle_of_error ((x.fault_eq_some_iff_answer f).mp h)).2.1
  refine ⟨hresponse, ?_⟩
  rw [hresponse]
  decide

end Exchange

namespace Service

variable [Metered σ] {P : σ → Prop} {s : Service σ}

/-- A state in the place of that of a service leaves the counts to its layers, too. -/
theorem LeavesRequests.withState (hs : s.LeavesRequests P) (x : σ) :
    ({ s with state := x } : Service σ).LeavesRequests P :=
  ⟨hs.holds_adjust, hs.collector_adjust, hs.reply⟩

/-- **The counts after one request.** -/
theorem count_handle (hs : s.LeavesRequests P) (hx : P s.state) (o : Occasion)
    (r : Http.Request) (key : RequestKey) :
    P (s.handle o r).service.state ∧
      (s.handle o r).service.collector.requests.count key
        = s.collector.requests.count key +
          if (⟨s, o, r⟩ : Exchange σ).countsAs key then 1 else 0 := by
  have hkeeps := hs.keeps_respond hx o (requestId o r) r
  unfold Exchange.countsAs Exchange.outcome
  cases hanswer : (s.respond o (requestId o r) r).answer with
  | ok answer =>
    obtain ⟨hfault, hstatus, -, hservice⟩ := handle_of_ok hanswer
    refine ⟨?_, ?_⟩
    · rw [hservice]
      exact hs.holds_adjust _ _ hkeeps.holds
    · have hcollector : (s.handle o r).service.collector.requests
          = s.collector.requests.add (r.key answer.status) := by
        rw [hservice]
        refine (congrArg Collector.requests (hs.collector_adjust _ _ hkeeps.holds)).trans ?_
        exact congrArg (Tally.add (r.key answer.status)) hkeeps.requests
      rw [hcollector, Tally.count_add, hfault, hstatus]
      simp
  | error f =>
    obtain ⟨hfault, -, hservice⟩ := handle_of_error hanswer
    refine ⟨?_, ?_⟩
    · rw [hservice]
      exact hs.holds_adjust _ _ hkeeps.holds
    · have hcollector : (s.handle o r).service.collector.requests = s.collector.requests := by
        rw [hservice]
        exact (congrArg Collector.requests (hs.collector_adjust _ _ hkeeps.holds)).trans
          hkeeps.requests
      rw [hcollector, hfault]
      rfl

/-! ### Runs -/

/-- What happens to a service: a request reaches it, or something outside changes its state. -/
inductive Incident (σ : Type) where
  /-- Something outside changes the state. -/
  | change (f : σ → σ)
  /-- A request reaches the service. -/
  | request (o : Occasion) (r : Http.Request)

/-- A service after an incident. -/
def meet (s : Service σ) : Incident σ → Service σ
  | .change f => { s with state := f s.state }
  | .request o r => (s.handle o r).service

/-- The requests among some incidents, with what they meet. -/
def exchanges (s : Service σ) : List (Incident σ) → List (Exchange σ)
  | [] => []
  | .change f :: rest => exchanges (s.meet (.change f)) rest
  | .request o r :: rest => ⟨s, o, r⟩ :: exchanges (s.meet (.request o r)) rest

/-- An incident changes the state of a service only. -/
theorem meet_eq (s : Service σ) (i : Incident σ) :
    s.meet i = { s with state := (s.meet i).state } := by
  cases i with
  | change f => rfl
  | request o r =>
    obtain ⟨f, -, heq⟩ := s.handle_service o r
    show (s.handle o r).service = { s with state := (s.handle o r).service.state }
    rw [heq]

/-- The counts after a run. -/
theorem count_run (hs : s.LeavesRequests P) (hx : P s.state) {incidents : List (Incident σ)}
    (hchanges : ∀ f, .change f ∈ incidents → ∀ x, P x → Metered.Keeps P x (f x))
    (key : RequestKey) :
    (incidents.foldl meet s).collector.requests.count key
      = s.collector.requests.count key + (s.exchanges incidents).countP (·.countsAs key) := by
  induction incidents generalizing s with
  | nil => rfl
  | cons i rest ih =>
    have hrest := fun f hf => hchanges f (List.mem_cons_of_mem _ hf)
    have hafter : (s.meet i).LeavesRequests P := by
      rw [meet_eq]
      exact hs.withState _
    rw [List.foldl_cons]
    cases i with
    | change f =>
      have hkeeps := hchanges f List.mem_cons_self s.state hx
      rw [ih hafter hkeeps.holds hrest, exchanges]
      exact congrArg (fun t => Tally.count key t + _) hkeeps.requests
    | request o r =>
      obtain ⟨hholds, hcount⟩ := count_handle hs hx o r key
      rw [ih hafter hholds hrest, exchanges, List.countP_cons, meet, hcount]
      omega

/-- **What is counted and named in a run.**  For every key, a run counts the requests that the inner
layers answer under it.  The answers to these have one name each, that of the request.  All others
end in a fault, which happens exactly if a request that asks for no leave meets an endpoint that
fails or refuses it in a way that makes no answer; the answers to these are all the same, and have
no name. -/
theorem run_accounts (hs : s.LeavesRequests P) (hx : P s.state) {incidents : List (Incident σ)}
    (hchanges : ∀ f, .change f ∈ incidents → ∀ x, P x → Metered.Keeps P x (f x)) :
    (∀ key, (incidents.foldl meet s).collector.requests.count key
      = s.collector.requests.count key + (s.exchanges incidents).countP (·.countsAs key)) ∧
    ∀ x ∈ s.exchanges incidents,
      (x.outcome.fault = none →
        x.outcome.response.headers.filter (·.1 == requestIdHeader)
            = [(requestIdHeader, requestId x.occasion x.request)] ∧
          ∀ name, x.request.header? requestIdHeader = some name →
            requestId x.occasion x.request = name) ∧
      ∀ f, (x.outcome.fault = some f ↔ x.Fails f) ∧
        (x.Fails f → x.outcome.response = faultAnswer ∧
          x.outcome.response.headers.filter (·.1 == requestIdHeader) = []) := by
  refine ⟨count_run hs hx hchanges, fun x _ => ⟨Exchange.named_of_fault_eq_none, fun f => ?_⟩⟩
  refine ⟨x.fault_eq_some_iff f, fun hfails => ?_⟩
  exact Exchange.unnamed_of_fault_eq_some ((x.fault_eq_some_iff f).mpr hfails)

end Service

/-- What the service of promotions counts from its start on, while the file of its rules is
rewritten: the requests that its inner layers answer. -/
theorem PromotionsService.count_run_of_start {s : Service Engine} {c : PromotionsConfig}
    {source : RuleSource} {draws : Draws} {now : DateTime} {log : List LogRecord}
    (h : start c source draws now = .ok (s, log)) {incidents : List (Service.Incident Engine)}
    (hchanges : ∀ f, .change f ∈ incidents → ∃ source, f = (Engine.withSource · source))
    (key : RequestKey) :
    (incidents.foldl Service.meet s).collector.requests.count key
      = s.collector.requests.count key + (s.exchanges incidents).countP (·.countsAs key) := by
  obtain ⟨hleaves, hmetered⟩ := leavesRequests_of_start h
  refine Service.count_run hleaves hmetered (fun f hf e he => ?_) key
  obtain ⟨source, rfl⟩ := hchanges f hf
  exact Engine.keeps_withSource he source

/-! ### A service with an endpoint that fails -/

/-- An endpoint that fails. -/
def Sample.failingEndpoint : Endpoint Collector :=
  .only "GET" "/raise/rt" fun _ c =>
    { state := c, ending := .failed (.outside "RuntimeError" "boo") }

/-- A service that has this endpoint of its own. -/
def Sample.failing : Service Collector :=
  { name := "other", config := Sample.settings.service, leastSeverity := 0
    endpoints := [Sample.failingEndpoint], state := .ofService "other" }

/-- A request of some name for a path. -/
def Sample.named (path : String) : Http.Request :=
  { method := "GET", path, headers := [(requestIdHeader, "rid")] }

/-- The request for the endpoint that fails. -/
def Sample.unmet : Exchange Collector := ⟨Sample.failing, Sample.occasion, Sample.named "/raise/rt"⟩

namespace Service

theorem leavesRequests_failing : Sample.failing.LeavesRequests fun _ => True := by
  refine leavesRequests_of_state_eq fun e he call c => ?_
  obtain rfl := List.mem_singleton.mp he
  rfl

/-- A request for a path without an endpoint is counted after one for the endpoint that fails, which
is not. -/
theorem run_accounts_failing :
    Sample.failing.LeavesRequests (fun _ => True) ∧
      let incidents := [Incident.request Sample.occasion (Sample.named "/raise/rt"),
        .request Sample.occasion (Sample.named "/nowhere")]
      let after := incidents.foldl meet Sample.failing
      after.collector.requests.count ⟨"GET", "/raise/rt", "500"⟩ = 0 ∧
      after.collector.requests.count ⟨"GET", "/nowhere", "404"⟩ = 1 := by
  refine ⟨leavesRequests_failing, ?_⟩
  intro incidents after
  have hchanges : ∀ f, .change f ∈ incidents → ∀ x, True →
      Metered.Keeps (fun _ : Collector => True) x (f x) := by
    intro f hf
    simp [incidents] at hf
  obtain ⟨hcounts, -⟩ := run_accounts leavesRequests_failing trivial hchanges
  refine ⟨(hcounts _).trans ?_, (hcounts _).trans ?_⟩
  · decide +kernel
  · decide +kernel

end Service

/-- A request that brings a name is answered with a status, but under this status no request is
counted, and the answer has no name. -/
theorem Exchange.not_accounted_unmet :
    Sample.unmet.request.header? requestIdHeader = some "rid" ∧
      Sample.unmet.outcome.response.status = 500 ∧
      Sample.unmet.outcome.response.headers.filter (·.1 == requestIdHeader) = [] ∧
      Sample.unmet.service.collector.requests.count (Sample.unmet.request.key 500) = 0 ∧
      Sample.unmet.outcome.service.collector.requests.count (Sample.unmet.request.key 500) = 0 := by
  decide +kernel

end OfferRules

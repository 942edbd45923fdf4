import OfferRules.Service.Handling

/-!
# What a service makes of a request

A request reaches at most one endpoint, and what happens to it around this endpoint depends on the
endpoint only through its reply: an answer goes out with its status and its body, a refusal and a
fault are counted, and nothing but the metrics changes once the endpoint has replied.

## Main definitions

* `Collector.IsClosing` — what the outermost layer enters into the metrics.

## Main results

* `Endpoint.admits_only`, `Service.admits_shown` — which requests an endpoint is for.
* `Service.mem_allEndpoints`, `Service.find?_allEndpoints` — the endpoints of a service.
* `Service.handle_service` — **the service after a request.**
* `Service.handle_of_answered`, `Service.handle_of_failed` — **an endpoint decides the status and
  the body of an answer.**
-/

namespace OfferRules

variable {σ : Type}

/-! ### Endpoints -/

theorem Http.PathForm.admits_only {fixed path : String} :
    (PathForm.only fixed).admits path = true ↔ path = fixed := by
  unfold admits parameter?
  by_cases h : path = fixed <;> simp [h]

/-- An endpoint of one method and one path is for requests of this method and path. -/
theorem Endpoint.admits_only {method path : String} {reply : Call → σ → Reply σ}
    {r : Http.Request} :
    (Endpoint.only method path reply).admits r = true ↔ r.method = method ∧ r.path = path := by
  unfold Endpoint.only Endpoint.admits
  rw [Bool.and_eq_true, Http.PathForm.admits_only]
  simp

/-- Only questions for leave are answered before they reach an endpoint. -/
theorem Http.Origins.method_of_preflight? {origins : Origins} {r : Request} {answer : Response}
    (h : origins.preflight? r = some answer) : r.method = "OPTIONS" := by
  unfold preflight? at h
  split at h
  · dsimp only at h
    split at h
    · next hmethod => exact hmethod
    · exact nomatch h
  · exact nomatch h

namespace Service

theorem admits_shown {answer : Http.Response} {path : String} {r : Http.Request} :
    (shown (σ := σ) answer path).admits r = true ↔
      (r.method = "GET" ∨ r.method = "HEAD") ∧ r.path = path := by
  unfold shown Endpoint.admits
  rw [Bool.and_eq_true, Http.PathForm.admits_only]
  simp

variable [Metered σ] (s : Service σ)

/-- The pages of a service are endpoints that always answer in the same way. -/
theorem mem_pages {e : Endpoint σ} (h : e ∈ s.pages) :
    ∃ answer path, path ∈ documentPath :: pagePaths ∧ e = shown answer path := by
  rcases List.mem_cons.mp h with rfl | h
  · exact ⟨_, _, List.mem_cons_self, rfl⟩
  · split at h
    · obtain ⟨path, hpath, rfl⟩ := List.mem_map.mp h
      exact ⟨_, _, List.mem_cons_of_mem _ hpath, rfl⟩
    · exact nomatch h

/-- An endpoint of a service is a page, tells of its health, shows its metrics, or is one of the
service itself. -/
theorem mem_allEndpoints {e : Endpoint σ} (h : e ∈ s.allEndpoints) :
    (∃ answer path, e = shown answer path) ∨ e = .only "GET" "/health" s.healthReply ∨
      e = .only "GET" "/metrics/prometheus" metricsReply ∨ e ∈ s.endpoints := by
  rcases List.mem_append.mp h with hpage | hdescribed
  · obtain ⟨answer, path, -, heq⟩ := s.mem_pages hpage
    exact Or.inl ⟨answer, path, heq⟩
  · rcases List.mem_cons.mp hdescribed with heq | hrest
    · exact Or.inr (Or.inl heq)
    · rcases List.mem_cons.mp hrest with heq | hown
      · exact Or.inr (Or.inr (Or.inl heq))
      · exact Or.inr (Or.inr (Or.inr hown))

/-- A request for none of their paths passes the pages. -/
theorem find?_allEndpoints {r : Http.Request} (h : r.path ∉ documentPath :: pagePaths) :
    s.allEndpoints.find? (·.admits r) = s.describedEndpoints.find? (·.admits r) := by
  unfold allEndpoints
  have hpages : s.pages.find? (·.admits r) = none := by
    rw [List.find?_eq_none]
    intro e he
    obtain ⟨answer, path, hpath, rfl⟩ := s.mem_pages he
    rw [admits_shown]
    rintro ⟨-, rfl⟩
    exact h hpath
  rw [List.find?_append, hpages, Option.none_or]

variable {s}

/-- The reply to a request for an endpoint. -/
theorem reply_of_find? {r : Http.Request} {e : Endpoint σ} (o : Occasion)
    (h : s.allEndpoints.find? (·.admits r) = some e) :
    s.reply o r = e.reply ⟨o, r, (e.form.parameter? r.path).getD ""⟩ s.state := by
  unfold reply find
  rw [h]

/-- Where no endpoint is for a request there is an answer, and nothing happens. -/
theorem reply_of_find?_eq_none {r : Http.Request} (o : Occasion)
    (h : s.allEndpoints.find? (·.admits r) = none) :
    (s.reply o r).state = s.state ∧ ∃ answer, (s.reply o r).ending = .answered answer := by
  unfold reply find
  rw [h]
  dsimp only
  split
  · next heq =>
    split at heq
    · exact nomatch heq
    · split at heq <;> exact nomatch heq
  · exact ⟨rfl, _, rfl⟩
  · exact ⟨rfl, _, rfl⟩
  · exact ⟨rfl, _, rfl⟩

end Service

/-! ### The layers around the endpoints -/

/-- What the outermost layer enters into the metrics: a request that was answered, or a fault. -/
def Collector.IsClosing (f : Collector → Collector) : Prop :=
  (∃ method path status seconds, f = (·.recordRequest method path status seconds)) ∨
    f = (·.recordError faultCode)

namespace Service

variable [Metered σ] {s : Service σ} {o : Occasion} {r : Http.Request}

/-- A reply that is no refusal is settled in its state. -/
theorem settle_state (s : Service σ) (id : String) {reply : Reply σ}
    (h : ∀ refusal, reply.ending ≠ .refused refusal) : (s.settle id reply).state = reply.state := by
  unfold settle
  cases hending : reply.ending with
  | answered answer => rfl
  | failed f => rfl
  | refused refusal => exact absurd hending (h refusal)

/-- A refusal is counted under its code. -/
theorem settle_state_of_refused (s : Service σ) (id : String) {reply : Reply σ} {refusal : Refusal}
    (h : reply.ending = .refused refusal) : (s.settle id reply).state =
      Metered.adjust (·.recordError refusal.code.display.shown) reply.state := by
  unfold settle
  rw [h]

/-- A question for leave changes nothing; any other request changes the state as the settled reply
does. -/
theorem respond_state (s : Service σ) (o : Occasion) (id : String) (r : Http.Request) :
    r.method = "OPTIONS" ∧ (s.respond o id r).state = s.state ∨
      (s.respond o id r).state = (s.settle id (s.reply o r)).state := by
  unfold respond
  cases h : s.origins.preflight? r with
  | some answer => exact Or.inl ⟨Http.Origins.method_of_preflight? h, rfl⟩
  | none => exact Or.inr rfl

/-- **The service after a request** is the same in a state that the inner layers leave, with the
request or a fault entered into the metrics. -/
theorem handle_service (s : Service σ) (o : Occasion) (r : Http.Request) :
    ∃ f, Collector.IsClosing f ∧ (s.handle o r).service =
      { s with state := Metered.adjust f (s.respond o (requestId o r) r).state } := by
  unfold handle
  dsimp only
  split
  · exact ⟨_, Or.inl ⟨_, _, _, _, rfl⟩, rfl⟩
  · exact ⟨_, Or.inr rfl, rfl⟩

theorem respond_answer (hmethod : r.method ≠ "OPTIONS") (id : String) :
    (s.respond o id r).answer = (s.settle id (s.reply o r)).answer.map (s.origins.decorate r) := by
  unfold respond
  cases h : s.origins.preflight? r with
  | some answer => exact absurd (Http.Origins.method_of_preflight? h) hmethod
  | none => rfl

/-- **An answer of an endpoint** goes out with its status and its body. -/
theorem handle_of_answered (hmethod : r.method ≠ "OPTIONS") {answer : Http.Response}
    (h : (s.reply o r).ending = .answered answer) :
    (s.handle o r).response.status = answer.status ∧
      (s.handle o r).response.body = answer.body := by
  have hanswer : (s.respond o (requestId o r) r).answer = .ok (s.origins.decorate r answer) := by
    rw [respond_answer hmethod, settle, h]
    rfl
  unfold handle
  dsimp only
  rw [hanswer]
  exact ⟨rfl, rfl⟩

/-- **A fault in an endpoint** is answered without details. -/
theorem handle_of_failed (hmethod : r.method ≠ "OPTIONS") {f : Fault}
    (h : (s.reply o r).ending = .failed f) : (s.handle o r).response = faultAnswer := by
  have hanswer : (s.respond o (requestId o r) r).answer = .error f := by
    rw [respond_answer hmethod, settle, h]
    rfl
  unfold handle
  dsimp only
  rw [hanswer]

end Service
end OfferRules

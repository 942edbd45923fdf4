import OfferRules.Proofs.DoublePlace
import OfferRules.Proofs.Entries
import OfferRules.Proofs.Outcome
import OfferRules.Proofs.ServiceRun
import OfferRules.Sample

/-!
# What the service of promotions shows

Five endpoints derive what they show from the same state, so that they agree with each other after
every request: the health of the service, the summary of its account, the list of its rules and the
gauge of its metrics all give the number of rules in force.

## Main definitions

* `Http.Response.IsDocument` — an answer in good order with a document.
* `PromotionsService.Views` — what the endpoints show.

## Main results

* `Value.get?_payload_record` — what is found in the payload of a record.
* `PromotionsService.run_views` — **the endpoints agree after every run.**
-/

namespace OfferRules

/-! ### Payloads of records -/

namespace Value

theorem payload_number (n : Number) : ∃ a, (number n).payload = .ok (.atom a) := by
  cases n with
  | int n => exact ⟨_, rfl⟩
  | double d => exact ⟨_, rfl⟩

/-- A text is sent as it is, if it is sent. -/
theorem eq_of_payload_text {t : Text} {v : Value} (h : (text t).payload = .ok v) : text t = v := by
  cases t with
  | whole s => exact Except.ok.inj h
  | torn before s after => cases h

theorem payloads_cons_eq_ok {v : Value} {vs ws : List Value} :
    payloads (v :: vs) = .ok ws ↔
      ∃ w rest, v.payload = .ok w ∧ payloads vs = .ok rest ∧ ws = w :: rest := by
  rw [payloads]
  cases v.payload <;> cases payloads vs <;> simp [eq_comm]

theorem payloadEntries_cons_eq_ok {k : Atom} {v : Value} {es out : List (Atom × Value)} :
    payloadEntries ((k, v) :: es) = .ok out ↔
      ∃ s w rest, k.payloadKey = .ok s ∧ v.payload = .ok w ∧ payloadEntries es = .ok rest ∧
        out = (.text s, w) :: rest := by
  rw [payloadEntries]
  cases k.payloadKey <;> cases v.payload <;> cases payloadEntries es <;> simp [eq_comm]

theorem payloadEntries_record {fields : List (String × Value)} {es : Entries}
    (h : payloadEntries (fields.map fun f => (.text f.1, f.2)) = .ok es) :
    es.map Prod.fst = fields.map (fun f => Atom.text f.1) ∧
      ∀ f ∈ fields, ∃ y, f.2.payload = .ok y ∧ (Atom.text f.1, y) ∈ es := by
  induction fields generalizing es with
  | nil =>
    obtain rfl : [] = es := by simpa [payloadEntries] using h
    simp
  | cons f rest ih =>
    obtain ⟨s, y, es', hs, hv, hrest, rfl⟩ := payloadEntries_cons_eq_ok.mp h
    obtain rfl := Except.ok.inj hs
    obtain ⟨hkeys, hvalues⟩ := ih hrest
    refine ⟨by rw [List.map_cons, hkeys, List.map_cons], ?_⟩
    rw [List.forall_mem_cons]
    refine ⟨⟨y, hv, List.mem_cons_self⟩, fun g hg => ?_⟩
    obtain ⟨z, hz, hmem⟩ := hvalues g hg
    exact ⟨z, hz, List.mem_cons_of_mem _ hmem⟩

/-- Under each of its names, the payload of a record has the payload of what the record has
there. -/
theorem get?_payload_record {fields : List (String × Value)} {v : Value}
    (h : (record fields).payload = .ok v) (hnames : (fields.map Prod.fst).Nodup) {name : String}
    {x : Value} (hmem : (name, x) ∈ fields) : ∃ y, x.payload = .ok y ∧ v.get? name = some y := by
  rw [record, payload, map_eq_ok] at h
  obtain ⟨es, hes, rfl⟩ := h
  obtain ⟨hkeys, hvalues⟩ := payloadEntries_record hes
  have hnodup : (es.map Prod.fst).Nodup := by
    have hmap : fields.map (fun f => Atom.text f.1)
        = (fields.map Prod.fst).map fun name : String => Atom.text name := by
      rw [List.map_map]
      rfl
    rw [hkeys, hmap]
    exact List.Pairwise.map _ (fun a b hne heq => hne (Text.whole.inj (Atom.text.inj heq))) hnames
  have htext : ∀ p ∈ es, ∃ s, p.1 = .text s := by
    intro p hp
    have hkey : p.1 ∈ fields.map (fun f => Atom.text f.1) := hkeys ▸ List.mem_map_of_mem hp
    obtain ⟨f, -, hf⟩ := List.mem_map.mp hkey
    exact ⟨f.1, hf.symm⟩
  obtain ⟨y, hy, hin⟩ := hvalues _ hmem
  refine ⟨y, hy, ?_⟩
  show Entries.get? (.text name) (Entries.ofList es) = some y
  rw [Entries.ofList_of_nodup htext hnodup, Entries.get?_text_eq_some hnodup]
  exact hin

/-- A record of values with payloads has a payload. -/
theorem exists_payload_record {fields : List (String × Value)}
    (h : ∀ f ∈ fields, ∃ y, f.2.payload = .ok y) : ∃ v, (record fields).payload = .ok v := by
  have hentries : ∃ es, payloadEntries (fields.map fun f => (.text f.1, f.2)) = .ok es := by
    induction fields with
    | nil => exact ⟨[], rfl⟩
    | cons f rest ih =>
      rw [List.forall_mem_cons] at h
      obtain ⟨y, hy⟩ := h.1
      obtain ⟨es, hes⟩ := ih h.2
      exact ⟨_, payloadEntries_cons_eq_ok.mpr ⟨f.1, y, es, rfl, hy, hes, rfl⟩⟩
  obtain ⟨es, hes⟩ := hentries
  refine ⟨.map (Entries.ofList es), ?_⟩
  rw [record, payload]
  exact map_eq_ok.mpr ⟨es, hes, rfl⟩

end Value

/-! ### Answers -/

/-- An answer in good order with a document. -/
def Http.Response.IsDocument (r : Http.Response) (v : Value) : Prop :=
  r.status = 200 ∧ r.body = .document v

namespace PromotionsService

variable {s : Service Engine} {o : Occasion} {r : Http.Request}

/-- An endpoint that shows a payload answers with it, if there is one, and ends in a fault if there
is none. -/
theorem handle_of_payload (hget : r.method = "GET") {x : Value}
    (h : (s.reply o r).ending = .ofExcept (Http.Response.payload x)) :
    (∃ v, x.payload = .ok v ∧ (s.handle o r).response.IsDocument v) ∨
      (∃ f, x.payload = .error f ∧ (s.handle o r).response = Service.faultAnswer) := by
  have hmethod : r.method ≠ "OPTIONS" := by rw [hget]; decide
  cases hx : x.payload with
  | ok v =>
    have hending : (s.reply o r).ending = .answered (.document 200 v) := by
      rw [h, Http.Response.payload, hx]
      rfl
    exact Or.inl ⟨v, rfl, Service.handle_of_answered hmethod hending⟩
  | error f =>
    have hending : (s.reply o r).ending = .failed f := by
      rw [h, Http.Response.payload, hx]
      rfl
    exact Or.inr ⟨f, rfl, Service.handle_of_failed hmethod hending⟩

/-- The replies that show the state of the service. -/
theorem reply_of_get (hs : s.endpoints = endpoints) (o : Occasion) (hget : r.method = "GET") :
    (r.path = "/health" → ∃ part, s.reply o r = s.healthReply ⟨o, r, part⟩ s.state) ∧
    (r.path = "/metrics/prometheus" →
      ∃ part, s.reply o r = Service.metricsReply ⟨o, r, part⟩ s.state) ∧
    (r.path = "/metrics" → ∃ part, s.reply o r = summaryReply ⟨o, r, part⟩ s.state) ∧
    (r.path = "/rules" → ∃ part, s.reply o r = rulesReply ⟨o, r, part⟩ s.state) := by
  have hfind : ∀ {reply : Call → Engine → Reply Engine},
      r.path ∉ Service.documentPath :: Service.pagePaths →
      s.describedEndpoints.find? (·.admits r) = some (.only "GET" r.path reply) →
      ∃ part, s.reply o r = reply ⟨o, r, part⟩ s.state := by
    intro reply hpath he
    rw [← s.find?_allEndpoints hpath] at he
    exact ⟨_, Service.reply_of_find? o he⟩
  have hadmits : ∀ method path (reply : Call → Engine → Reply Engine),
      (Endpoint.only method path reply).admits r = decide (r.method = method ∧ r.path = path) := by
    intro method path reply
    rw [Bool.eq_iff_iff, Endpoint.admits_only, decide_eq_true_eq]
  refine ⟨fun hp => ?_, fun hp => ?_, fun hp => ?_, fun hp => ?_⟩
  all_goals
    refine hfind (by rw [hp]; decide) ?_
    unfold Service.describedEndpoints
    rw [hs, endpoints]
    simp only [List.find?_cons, hadmits, hget, hp]
    rfl

/-! ### What the endpoints show -/

/-- The health of the service gives the number of rules in force. -/
theorem view_health (hs : s.endpoints = endpoints) (hd : s.details = details) (o : Occasion)
    (hget : r.method = "GET") (hpath : r.path = "/health") :
    ∃ v, (s.handle o r).response.IsDocument v ∧
      v.get? "rulesLoaded" = some (.int s.state.rules.length) := by
  obtain ⟨part, hreply⟩ := (reply_of_get hs o hget).1 hpath
  let v : Value := .map ((s.healthFields o).override
    [(.text "rulesLoaded", .int s.state.rules.length)])
  have hfinite : v.isFinite = true := by
    simp [v, Service.healthFields, Entries.override, Entries.insert, Atom.same_text, Value.isFinite,
      Value.entriesFinite, Value.finiteAtom, Double.isFinite]
  have hwhole : (Json.compact v).isTorn = false := by
    simp [v, Service.healthFields, Entries.override, Entries.insert, Atom.same_text, Json.compact,
      Json.compactEntries, Json.compactKey, Json.key, Json.compactAtom, Json.compactText,
      Json.compactBody, Value.display, Text.joined, Text.isTorn]
  have hending : (s.reply o r).ending = .answered (.document 200 v) := by
    rw [hreply, Service.healthReply, hd]
    show Ending.ofExcept (Http.Response.strict 200 v) = _
    rw [Http.Response.strict_eq_ok hfinite hwhole]
    rfl
  refine ⟨v, Service.handle_of_answered (by rw [hget]; decide) hending, ?_⟩
  exact Entries.get?_insert_self "rulesLoaded" _ _

/-- The summary of the account gives the number of selections and of rules in force. -/
theorem view_summary (hs : s.endpoints = endpoints) (o : Occasion) (hget : r.method = "GET")
    (hpath : r.path = "/metrics") :
    ∃ v, (s.handle o r).response.IsDocument v ∧
      v.get? "totalEvaluations" = some (.int s.state.activity.evaluations) ∧
      v.get? "totalRules" = some (.int s.state.rules.length) := by
  obtain ⟨part, hreply⟩ := (reply_of_get hs o hget).2.2.1 hpath
  have hending : (s.reply o r).ending =
      .ofExcept (Http.Response.payload s.state.snapshot.toValue) := by
    rw [hreply, summaryReply]
  obtain ⟨w, hw⟩ : ∃ w, s.state.snapshot.toValue.payload = .ok w := by
    refine Value.exists_payload_record ?_
    simp only [List.forall_mem_cons, List.not_mem_nil, false_imp_iff, implies_true, and_true]
    refine ⟨⟨_, rfl⟩, ⟨_, rfl⟩, ⟨_, rfl⟩, ⟨_, rfl⟩, ?_, ⟨_, rfl⟩, ?_⟩
    · obtain ⟨a, ha⟩ := Value.payload_number s.state.snapshot.averageLatency
      exact ⟨_, ha⟩
    · split <;> exact ⟨_, rfl⟩
  rcases handle_of_payload hget hending with ⟨v, hv, hdocument⟩ | ⟨f, hf, -⟩
  · have hnames : ["totalEvaluations", "hits", "misses", "hitRate", "averageLatencyMs",
        "totalRules", "lastReload"].Nodup := by decide
    obtain ⟨x, hx, hevaluations⟩ := Value.get?_payload_record hv hnames List.mem_cons_self
    obtain ⟨y, hy, hrules⟩ : ∃ y, (Value.int s.state.rules.length).payload = .ok y ∧
        v.get? "totalRules" = some y :=
      Value.get?_payload_record hv hnames (by simp [Engine.snapshot, Activity.snapshot])
    obtain rfl := Except.ok.inj hx
    obtain rfl := Except.ok.inj hy
    exact ⟨v, hdocument, hevaluations, hrules⟩
  · rw [hw] at hf
    exact nomatch hf

/-- The payload of a list has the payloads of its items, in their order. -/
theorem map_id_payloads {rules : List Rule} {items : List Value}
    (h : Value.payloads (rules.map ruleSummary) = .ok items) :
    items.map (·.get? "id") = rules.map fun rule => some (.text rule.id) := by
  induction rules generalizing items with
  | nil =>
    obtain rfl : [] = items := by simpa [Value.payloads] using h
    rfl
  | cons rule rest ih =>
    obtain ⟨v, items', hv, hrest, rfl⟩ := Value.payloads_cons_eq_ok.mp h
    have hnames : ["id", "priority", "logic", "conditionCount", "hasTimeWindow",
        "promotion"].Nodup := by decide
    obtain ⟨y, hy, hid⟩ := Value.get?_payload_record hv hnames List.mem_cons_self
    obtain rfl := Value.eq_of_payload_text hy
    rw [List.map_cons, List.map_cons, hid, ih hrest]

/-- The list of rules, where it can be given, repeats the rules in force in their order and gives
their number. -/
theorem view_rules (hs : s.endpoints = endpoints) (o : Occasion) (hget : r.method = "GET")
    (hpath : r.path = "/rules") (hstatus : (s.handle o r).response.status = 200) :
    ∃ v items, (s.handle o r).response.IsDocument v ∧
      v.get? "total" = some (.int s.state.rules.length) ∧
      v.get? "rules" = some (.list items) ∧
      items.map (·.get? "id") = s.state.rules.map fun rule => some (.text rule.id) := by
  obtain ⟨part, hreply⟩ := (reply_of_get hs o hget).2.2.2 hpath
  have hending : (s.reply o r).ending = .ofExcept (Http.Response.payload (.record
      [("rules", .list (s.state.rules.map ruleSummary)),
        ("total", .int s.state.rules.length)])) := by
    rw [hreply, rulesReply]
  rcases handle_of_payload hget hending with ⟨v, hv, hdocument⟩ | ⟨f, -, hfault⟩
  · have hnames : ["rules", "total"].Nodup := by decide
    obtain ⟨x, hx, hrules⟩ := Value.get?_payload_record hv hnames List.mem_cons_self
    obtain ⟨y, hy, htotal⟩ := Value.get?_payload_record hv hnames
      (List.mem_cons_of_mem _ List.mem_cons_self)
    obtain rfl := Except.ok.inj hy
    rw [Value.payload, map_eq_ok] at hx
    obtain ⟨items, hitems, rfl⟩ := hx
    exact ⟨v, items, hdocument, htotal, hrules, map_id_payloads hitems⟩
  · rw [hfault] at hstatus
    exact absurd hstatus (by decide)

/-- The family of the gauge of the metrics. -/
def gaugeFamily (d : Double) : Family :=
  { name := "promotion_rules_loaded", help := "Number of promotion rules currently in force"
    kind := "gauge", samples := [{ value := d }] }

/-- The sample of the refusals of data in the exposition of the metrics. -/
def validationSample (refusals : Nat) : Sample :=
  { labels := [("error_type", validationKey.code), ("service", validationKey.service)]
    value := .ofNat refusals }

/-- The exposition of the metrics has one gauge of the rules in force, which shows their number, and
tells of the refusals of data if there are some. -/
theorem view_exposition (hs : s.endpoints = endpoints) {evaluations refusals : Nat}
    (h : s.state.Shows evaluations refusals) (o : Occasion) (hget : r.method = "GET")
    (hpath : r.path = "/metrics/prometheus") :
    ∃ (families : List Family) (d : Double), (s.handle o r).response.status = 200 ∧
      (s.handle o r).response.body =
        .text (String.join ((families.flatMap Family.lines).map (· ++ "\n"))) ∧
      families.filter (·.name == "promotion_rules_loaded") = [gaugeFamily d] ∧
      (s.state.rules.length < Nat.pow 2 53 → d.toInt? = some (s.state.rules.length : Int)) ∧
      (0 < refusals → ∃ f ∈ families, f.name = "errors_total" ∧
        validationSample refusals ∈ f.samples) := by
  obtain ⟨part, hreply⟩ := (reply_of_get hs o hget).2.1 hpath
  obtain ⟨c, hc, -, herrors, m, hm, hloaded⟩ := h.collector
  have hending : (s.reply o r).ending = .answered (.ofText 200 Service.expositionKind
      (String.join (c.exposition.map (· ++ "\n")))) := by
    rw [hreply, Service.metricsReply, collector_eq hc]
  obtain ⟨hstatus, hbody⟩ := Service.handle_of_answered (by rw [hget]; decide) hending
  refine ⟨c.families, (Double.ofInt? s.state.rules.length).getD .nan, hstatus, hbody, ?_, ?_, ?_⟩
  · unfold Collector.families
    rw [hm]
    simp [Collector.infoFamily, Collector.commonFamilies, PromotionMeters.families, gaugeFamily,
      hloaded, Number.toDouble?]
  · intro hsmall
    obtain ⟨d, hd, hint⟩ := Double.toInt?_ofInt? hsmall
    rw [hd]
    exact hint
  · intro hpos
    have hmem : (validationKey, refusals) ∈ c.errors := by
      rw [← herrors] at hpos ⊢
      exact Tally.mem_of_count hpos
    refine ⟨_, List.mem_append_left _ (List.mem_cons_of_mem _ (List.mem_of_getElem? (i := 3) rfl)),
      rfl, List.mem_map_of_mem hmem⟩

/-- **What the endpoints show** after some selections and refusals: the health of the service, the
summary of its account, the list of its rules and the gauge of its metrics. -/
structure Views (s : Service Engine) (evaluations refusals : Nat) : Prop where
  /-- The health gives the number of rules in force. -/
  health : ∀ o r, r.method = "GET" → r.path = "/health" →
    ∃ v, (s.handle o r).response.IsDocument v ∧
      v.get? "rulesLoaded" = some (.int s.state.rules.length)
  /-- The summary gives the number of selections and of rules in force. -/
  summary : ∀ o r, r.method = "GET" → r.path = "/metrics" →
    ∃ v, (s.handle o r).response.IsDocument v ∧
      v.get? "totalEvaluations" = some (.int evaluations) ∧
      v.get? "totalRules" = some (.int s.state.rules.length)
  /-- The list, where it can be given, repeats the rules in force in their order, and gives their
  number. -/
  list : ∀ o r, r.method = "GET" → r.path = "/rules" → (s.handle o r).response.status = 200 →
    ∃ v items, (s.handle o r).response.IsDocument v ∧
      v.get? "total" = some (.int s.state.rules.length) ∧
      v.get? "rules" = some (.list items) ∧ items.length = s.state.rules.length ∧
      items.map (·.get? "id") = s.state.rules.map fun rule => some (.text rule.id)
  /-- The exposition has one gauge of rules, which shows their number if a double can, and tells of
  the refusals if there are some. -/
  exposition : ∀ o r, r.method = "GET" → r.path = "/metrics/prometheus" →
    ∃ (families : List Family) (d : Double), (s.handle o r).response.status = 200 ∧
      (s.handle o r).response.body =
        .text (String.join ((families.flatMap Family.lines).map (· ++ "\n"))) ∧
      families.filter (·.name == "promotion_rules_loaded") = [gaugeFamily d] ∧
      (s.state.rules.length < Nat.pow 2 53 → d.toInt? = some (s.state.rules.length : Int)) ∧
      (0 < refusals → ∃ f ∈ families, f.name = "errors_total" ∧
        validationSample refusals ∈ f.samples)

theorem views (hs : s.endpoints = endpoints) (hd : s.details = details)
    {evaluations refusals : Nat} (h : s.state.Shows evaluations refusals) :
    Views s evaluations refusals where
  health := fun o r hget hpath => view_health hs hd o hget hpath
  summary := by
    intro o r hget hpath
    rw [← h.evaluations]
    exact view_summary hs o hget hpath
  list := by
    intro o r hget hpath hstatus
    obtain ⟨v, items, hdocument, htotal, hrules, hids⟩ := view_rules hs o hget hpath hstatus
    have hlength := congrArg List.length hids
    rw [List.length_map, List.length_map] at hlength
    exact ⟨v, items, hdocument, htotal, hrules, hlength, hids⟩
  exposition := fun o r hget hpath => view_exposition hs h o hget hpath

/-! ### Whole runs -/

/-- Some of the counted are left out only if there are some of them. -/
theorem countP_and_not_eq_iff {α : Type} {p q : α → Bool} {l : List α} :
    (l.countP fun a => p a && !q a) = l.countP p ↔ ∀ a ∈ l, p a = true → q a = false := by
  induction l with
  | nil => simp
  | cons a rest ih =>
    have hle : (rest.countP fun a => p a && !q a) ≤ rest.countP p :=
      List.countP_mono_left fun b _ hb => (Bool.and_eq_true_iff.mp hb).1
    rw [List.countP_cons, List.countP_cons, List.forall_mem_cons, ← ih]
    cases p a <;> cases q a <;> simp
    omega

theorem Event.isUnread_or {ev : Event} (h : ev.isUnread = true) :
    ev.isQuestion = true ∨ ev.isMistake = true := by
  cases ev with
  | rewrite source => exact nomatch h
  | request o r =>
    have hasks : r.asks = true := (Bool.and_eq_true_iff.mp h).1
    cases hobject : r.hasObject <;> simp [isQuestion, isMistake, hasks, hobject]

/-- No question is left out on either side exactly if no body was too deep. -/
theorem Event.countP_eq_iff (events : List Event) :
    ((events.countP fun ev => ev.isQuestion && !ev.isUnread) = events.countP Event.isQuestion ∧
      (events.countP fun ev => ev.isMistake && !ev.isUnread) = events.countP Event.isMistake) ↔
      ∀ ev ∈ events, ev.isUnread = false := by
  rw [countP_and_not_eq_iff, countP_and_not_eq_iff]
  constructor
  · rintro ⟨hquestions, hmistakes⟩ ev hev
    cases hunread : ev.isUnread with
    | false => rfl
    | true =>
      rcases Event.isUnread_or hunread with hq | hm
      · rw [← hunread, hquestions ev hev hq]
      · rw [← hunread, hmistakes ev hev hm]
  · exact fun hread => ⟨fun ev hev _ => hread ev hev, fun ev hev _ => hread ev hev⟩

/-- **The endpoints agree after every run.**  Whatever requests reach the service once it is
started, and however the file of its rules changes in between, its account says how many questions
for a promotion there were whose body is an object, and its metrics say how many there were whose
body is none, not counting those whose body is too deep for its reader; so both counts are what the
bodies of all questions say exactly if no body was too deep.  No other request changes one of them,
and after every event all endpoints show the same number of rules in force. -/
theorem run_views {c : PromotionsConfig} {source : RuleSource} {draws : Draws} {now : DateTime}
    {log : List LogRecord} (h : start c source draws now = .ok (s, log)) (events : List Event) :
    let after := run s events
    let evaluations := after.state.activity.evaluations
    let refusals := after.collector.errors.count validationKey
    evaluations = events.countP (fun ev => ev.isQuestion && !ev.isUnread) ∧
    refusals = events.countP (fun ev => ev.isMistake && !ev.isUnread) ∧
    (evaluations = events.countP Event.isQuestion ∧ refusals = events.countP Event.isMistake ↔
      ∀ ev ∈ events, ev.isUnread = false) ∧
    (∀ ev, ev.isQuestion = false → ev.isMistake = false →
      (step after ev).state.activity.evaluations = evaluations ∧
      (step after ev).collector.errors.count validationKey = refusals) ∧
    Views after evaluations refusals := by
  intro after evaluations refusals
  obtain ⟨hends, hdetails, hzero⟩ := start_eq_ok h
  have hshows := shows_run hends hzero events
  rw [Nat.zero_add, Nat.zero_add] at hshows
  have hafter : after.endpoints = endpoints ∧ after.details = details := by
    rw [show after = _ from run_eq s events]
    exact ⟨hends, hdetails⟩
  have hevaluations : evaluations = events.countP (fun ev => ev.isQuestion && !ev.isUnread) :=
    hshows.evaluations
  have hrefusals : refusals = events.countP (fun ev => ev.isMistake && !ev.isUnread) :=
    count_collector hshows
  refine ⟨hevaluations, hrefusals, ?_, ?_, ?_⟩
  · rw [hevaluations, hrefusals]
    exact Event.countP_eq_iff events
  · intro ev hq hm
    have hstep := shows_step hafter.1 hshows ev
    rw [hq, hm] at hstep
    exact ⟨hstep.evaluations.trans hevaluations.symm,
      (count_collector hstep).trans hrefusals.symm⟩
  · rw [hevaluations, hrefusals]
    exact views hafter.1 hafter.2 hshows

end PromotionsService

namespace Sample

/-- Settings of the service. -/
def settings : PromotionsConfig :=
  { service :=
      { env := "local", logLevel := "INFO", serviceName := promotionsName, port := 8000
        host := "0.0.0.0", extras := [] }
    rulesPath := .standard, strategy := "priority", gate := "hash_bucket", bucketCount := 10 }

/-- The service, started with a small rule set. -/
def started : Except Fault (Service Engine × List LogRecord) :=
  PromotionsService.start settings (.document document) { draw := fun _ => .zero } noon

/-- The surroundings of a request. -/
def occasion : Occasion :=
  { now := noon, freshId := "0", selection := .zero, duration := .zero, uptime := .zero }

/-- A question for a promotion with a body in ASCII. -/
def question (body : List UInt8) : PromotionsService.Event :=
  .request occasion { method := "POST", path := "/promotion", body }

/-- A question for a promotion whose body is opening brackets. -/
def brackets (n : Nat) : Http.Request :=
  { method := "POST", path := "/promotion", body := List.replicate n 0x5b }

/-- Two questions whose body is an empty object, one whose body is an empty list, and in between a
request for a reload and a rule set that is lost. -/
def requests : List PromotionsService.Event :=
  [question [0x7b, 0x7d], .rewrite (.document .null),
    .request occasion { method := "POST", path := "/reload-rules" },
    question [0x5b, 0x5d], question [0x7b, 0x7d]]

end Sample

namespace PromotionsService

theorem exists_started : ∃ p, Sample.started = .ok p := by
  have hok : Sample.started.toBool = true := by decide +kernel
  cases h : Sample.started with
  | error f => rw [h] at hok; exact nomatch hok
  | ok p => exact ⟨p, rfl⟩

/-- Three questions are two selections and one refusal, and the summary of the account says so. -/
theorem run_views_requests : ∃ s log, Sample.started = .ok (s, log) ∧
    (∀ ev ∈ Sample.requests, ev.isUnread = false) ∧
    (run s Sample.requests).state.activity.evaluations = 2 ∧
    (run s Sample.requests).collector.errors.count validationKey = 1 ∧
    ∃ v, ((run s Sample.requests).handle Sample.occasion
        { method := "GET", path := "/metrics" }).response.IsDocument v ∧
      v.get? "totalEvaluations" = some (.int 2) := by
  obtain ⟨⟨s, log⟩, h⟩ := exists_started
  have hread : ∀ ev ∈ Sample.requests, ev.isUnread = false := by decide +kernel
  obtain ⟨-, -, hcounts, -, hviews⟩ := run_views h Sample.requests
  obtain ⟨hevaluations, hrefusals⟩ := hcounts.mpr hread
  have htwo : Sample.requests.countP Event.isQuestion = 2 := by decide +kernel
  have hone : Sample.requests.countP Event.isMistake = 1 := by decide +kernel
  rw [htwo] at hevaluations
  rw [hone] at hrefusals
  obtain ⟨v, hv, htotal, -⟩ := hviews.summary Sample.occasion
    { method := "GET", path := "/metrics" } rfl rfl
  rw [hevaluations] at htotal
  exact ⟨s, log, h, hread, hevaluations, hrefusals, v, hv, htotal⟩

/-- A question whose body is more opening brackets than its reader may follow lists is one for which
the body is no object, and yet neither account counts it. -/
theorem shows_step_brackets {evaluations refusals n : Nat} (hs : s.endpoints = endpoints)
    (h : s.state.Shows evaluations refusals) (hn : o.depth < n) :
    let ev := Event.request o (Sample.brackets n)
    ev.isQuestion = false ∧ ev.isMistake = true ∧
      (step s ev).state.Shows evaluations refusals := by
  intro ev
  have hasks : (Sample.brackets n).asks = true := rfl
  have hobject : (Sample.brackets n).hasObject = false := Json.any_isMap_brackets n
  have hquestion : ev.isQuestion = false := by simp [ev, Event.isQuestion, hobject]
  have hmistake : ev.isMistake = true := by simp [ev, Event.isMistake, hasks, hobject]
  -- a question that cannot be read to its end is left out of both accounts
  have hunread : ev.isUnread = true := by
    rw [Event.isUnread, hasks, Bool.true_and]
    exact Json.isTooDeep_brackets hn
  have hshows := shows_step hs h ev
  rw [hquestion, hmistake, hunread] at hshows
  exact ⟨hquestion, hmistake, hshows⟩

/-- So it is with a body of a hundred thousand of them, wherever fewer lists may be followed. -/
theorem run_views_brackets : ∃ s log, Sample.started = .ok (s, log) ∧ ∀ depth < 100000,
    let ev := Event.request { Sample.occasion with depth } (Sample.brackets 100000)
    ev.isQuestion = false ∧ ev.isMistake = true ∧
      (run s [ev]).state.activity.evaluations = 0 ∧
      (run s [ev]).collector.errors.count validationKey = 0 := by
  obtain ⟨⟨s, log⟩, h⟩ := exists_started
  obtain ⟨hends, -, hzero⟩ := start_eq_ok h
  refine ⟨s, log, h, fun depth hdepth => ?_⟩
  obtain ⟨hquestion, hmistake, hshows⟩ := shows_step_brackets
    (o := { Sample.occasion with depth }) hends hzero hdepth
  exact ⟨hquestion, hmistake, hshows.evaluations, count_collector hshows⟩

end PromotionsService
end OfferRules

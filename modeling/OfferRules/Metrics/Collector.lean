import OfferRules.Metrics.Exposition
import OfferRules.Metrics.Tally

/-!
# The metrics of a service

Every service counts its requests, health checks and errors and observes how long requests take.
The service of promotions also counts selections and loads of its rule set.

## Main definitions

* `PromotionMeters`, `Collector` — the metrics.
* `Collector.ofService` — the metrics of a new service.
* `Collector.recordRequest`, `recordHealthCheck`, `recordError`, `recordSelection`, `recordLoad` —
  what is counted.
* `Collector.exposition` — the lines of the exposition.
-/

namespace OfferRules

/-- What requests are counted by. -/
structure RequestKey where
  /-- The method. -/
  method : String
  /-- The path. -/
  endpoint : String
  /-- The status of the answer. -/
  status : String
deriving DecidableEq, Repr

/-- What durations of requests are observed by. -/
structure TimingKey where
  /-- The method. -/
  method : String
  /-- The path. -/
  endpoint : String
deriving DecidableEq, Repr

/-- What errors are counted by. -/
structure ErrorKey where
  /-- The code of the error. -/
  code : String
  /-- The service in which it arose. -/
  service : String
deriving DecidableEq, Repr

/-- The metrics of selections and rule sets. -/
structure PromotionMeters where
  /-- The selections, with and without a promotion. -/
  selections : Tally Bool := []
  /-- How long they took. -/
  durations : Histogram := .empty
  /-- The number of rules in force. -/
  loaded : Number := 0
  /-- The loads of rule sets, with and without success. -/
  loads : Tally Bool := []

/-- The metrics of a service. -/
structure Collector where
  /-- The name of the service. -/
  service : String
  /-- The requests. -/
  requests : Tally RequestKey := []
  /-- How long they took. -/
  durations : List (TimingKey × Histogram) := []
  /-- The health checks by their outcome. -/
  healthChecks : Tally String := []
  /-- The errors. -/
  errors : Tally ErrorKey := []
  /-- The metrics of promotions, if the service is that of promotions. -/
  promotions : Option PromotionMeters := none

/-- The name of the service that selects promotions. -/
def promotionsName : String := "promotions"

/-- The version of the services. -/
def serviceVersion : String := "1.0.0"

namespace Collector

/-- The metrics of a new service. -/
def ofService (name : String) : Collector :=
  { service := name, promotions := if name = promotionsName then some {} else none }

/-! ### Recording -/

/-- Observes a duration under a key. -/
def observeAt (key : TimingKey) (d : Double) :
    List (TimingKey × Histogram) → List (TimingKey × Histogram)
  | [] => [(key, Histogram.empty.observe d)]
  | (k, h) :: rest =>
    if k = key then (k, h.observe d) :: rest else (k, h) :: observeAt key d rest

/-- Counts a request. -/
def countRequest (c : Collector) (method endpoint status : String) : Collector :=
  { c with requests := c.requests.add ⟨method, endpoint, status⟩ }

/-- Observes the duration of a request in seconds. -/
def observeRequest (c : Collector) (method endpoint : String) (seconds : Double) : Collector :=
  { c with durations := observeAt ⟨method, endpoint⟩ seconds c.durations }

/-- Counts a request and observes its duration in seconds. -/
def recordRequest (c : Collector) (method endpoint status : String) (seconds : Double) :
    Collector :=
  (c.countRequest method endpoint status).observeRequest method endpoint seconds

/-- Counts a health check. -/
def recordHealthCheck (c : Collector) (status : String) : Collector :=
  { c with healthChecks := c.healthChecks.add status }

/-- Counts an error, in this service unless another one is named. -/
def recordError (c : Collector) (code : String) (service : String := "") : Collector :=
  { c with errors := c.errors.add ⟨code, if service = "" then c.service else service⟩ }

/-- Counts a selection. -/
def countSelection (c : Collector) (hit : Bool) : Collector :=
  { c with promotions := c.promotions.map fun m => { m with selections := m.selections.add hit } }

/-- Observes the duration of a selection in seconds. -/
def observeSelection (c : Collector) (seconds : Double) : Collector :=
  { c with promotions := c.promotions.map fun m =>
      { m with durations := m.durations.observe seconds } }

/-- Counts a selection and observes its duration in seconds. -/
def recordSelection (c : Collector) (hit : Bool) (seconds : Double) : Collector :=
  (c.countSelection hit).observeSelection seconds

/-- Counts a load of a rule set. -/
def countLoad (c : Collector) (success : Bool) : Collector :=
  { c with promotions := c.promotions.map fun m => { m with loads := m.loads.add success } }

/-- Sets the number of rules in force. -/
def setLoaded (c : Collector) (rules : Number) : Collector :=
  { c with promotions := c.promotions.map fun m => { m with loaded := rules } }

/-- Counts a load of a rule set and sets the number of rules in force. -/
def recordLoad (c : Collector) (success : Bool) (rules : Number) : Collector :=
  (c.countLoad success).setLoaded rules

/-! ### Exposition -/

/-- The samples of a tally. -/
def tallySamples {κ : Type} (labels : κ → List (String × String)) (t : Tally κ) : List Sample :=
  t.map fun p => { labels := labels p.1, value := .ofNat p.2 }

/-- The family that names the service. -/
def infoFamily (c : Collector) : Family :=
  { name := "service_info_info", help := "Service information", kind := "gauge"
    samples := [{ labels := [("service", c.service), ("version", serviceVersion)]
                  value := .one }] }

/-- The families that every service has. -/
def commonFamilies (c : Collector) : List Family :=
  [{ name := "http_requests_total", help := "Total HTTP requests", kind := "counter"
     samples := tallySamples (fun k => [("endpoint", k.endpoint), ("method", k.method),
       ("status_code", k.status)]) c.requests },
    { name := "http_request_duration_seconds", help := "HTTP request duration in seconds"
      kind := "histogram"
      samples := c.durations.flatMap fun p =>
        p.2.samples [("endpoint", p.1.endpoint), ("method", p.1.method)] },
    { name := "health_check_total", help := "Total health check requests", kind := "counter"
      samples := tallySamples (fun status => [("status", status)]) c.healthChecks },
    { name := "errors_total", help := "Total errors", kind := "counter"
      samples := tallySamples (fun k => [("error_type", k.code), ("service", k.service)])
        c.errors }]

end Collector

/-- The families of the service of promotions. -/
def PromotionMeters.families (m : PromotionMeters) : List Family :=
  [{ name := "promotion_selections_total", help := "Total promotion selection attempts"
     kind := "counter"
     samples := Collector.tallySamples
       (fun hit => [("outcome", if hit then "hit" else "miss")]) m.selections },
    { name := "promotion_selection_duration_seconds"
      help := "Promotion selection duration in seconds", kind := "histogram"
      samples := m.durations.samples [] },
    { name := "promotion_rules_loaded", help := "Number of promotion rules currently in force"
      kind := "gauge", samples := [{ value := m.loaded.toDouble?.getD .nan }] },
    { name := "promotion_rule_reloads_total", help := "Total rule set loads", kind := "counter"
      samples := Collector.tallySamples
        (fun success => [("status", if success then "success" else "failure")]) m.loads }]

namespace Collector

/-- The families of a service. -/
def families (c : Collector) : List Family :=
  c.infoFamily :: c.commonFamilies ++ (c.promotions.map PromotionMeters.families).getD []

/-- The lines of the exposition. -/
def exposition (c : Collector) : List String := c.families.flatMap Family.lines

/-- The names of the metrics that every service has. -/
def commonNames : List String :=
  ["service_info", "http_requests_total", "http_request_duration_seconds", "health_check_total",
    "errors_total"]

/-- The names of the metrics of the service of promotions. -/
def promotionNames : List String :=
  ["promotion_selections_total", "promotion_selection_duration_seconds",
    "promotion_rules_loaded", "promotion_rule_reloads_total"]

/-- Whether a service has a metric of a name. -/
def hasMetric (c : Collector) (name : String) : Bool :=
  commonNames.contains name || (c.promotions.isSome && promotionNames.contains name)

end Collector
end OfferRules

import OfferRules.Http.CrossOrigin
import OfferRules.Http.Path
import OfferRules.Log.Event
import OfferRules.Metrics.Collector
import OfferRules.Refusal
import OfferRules.Settings.Config

/-!
# Services

A service has a name, settings, endpoints and a state, in which it keeps its metrics.  An endpoint
gives a reply to a call: a new state, the events for the log, and an ending, which is an answer, a
refusal or a fault.

## Main definitions

* `Metered` — states with the metrics of a service.
* `Occasion`, `Call` — what an endpoint is given.
* `Ending`, `Reply` — what it gives back.
* `Endpoint`, `Service` — endpoints and services.
* `Found`, `find` — the endpoint for a request.
-/

namespace OfferRules

/-! ### States -/

/-- A state with the metrics of a service. -/
class Metered (σ : Type) where
  /-- The metrics. -/
  collector : σ → Collector
  /-- The state with its metrics changed. -/
  adjust : (Collector → Collector) → σ → σ

instance : Metered Collector where
  collector c := c
  adjust f c := f c

/-! ### Calls and replies -/

/-- What the surroundings of a request give. -/
structure Occasion where
  /-- The time. -/
  now : DateTime
  /-- A name for a request that has none. -/
  freshId : String
  /-- How long a selection takes, in milliseconds. -/
  selection : Magnitude
  /-- How long the request takes, in seconds. -/
  duration : Magnitude
  /-- How long the service has been running, in seconds. -/
  uptime : Magnitude
  /-- How deep the reader of a body may follow lists and objects that stand one within another: what
  the calls under way leave of a thousand. -/
  depth : Nat := 930

/-- A request that has reached an endpoint. -/
structure Call where
  /-- The surroundings. -/
  occasion : Occasion
  /-- The request. -/
  request : Http.Request
  /-- The part of the path that is not fixed. -/
  parameter : String

/-- How an endpoint ends. -/
inductive Ending where
  /-- With an answer. -/
  | answered (r : Http.Response)
  /-- With a refusal. -/
  | refused (r : Refusal)
  /-- With a fault. -/
  | failed (f : Fault)

/-- The ending of what gives an answer or ends in a fault. -/
def Ending.ofExcept : Except Fault Http.Response → Ending
  | .ok r => answered r
  | .error f => failed f

/-- What an endpoint gives back. -/
structure Reply (σ : Type) where
  /-- The state after the call. -/
  state : σ
  /-- The events for the log. -/
  events : List LogEvent := []
  /-- The name of the player at work when they arose. -/
  player : Option Text := none
  /-- The ending. -/
  ending : Ending

/-! ### Endpoints -/

/-- An endpoint. -/
structure Endpoint (σ : Type) where
  /-- Its methods. -/
  methods : List String
  /-- Its paths. -/
  form : Http.PathForm
  /-- Its reply to a call in a state. -/
  reply : Call → σ → Reply σ

namespace Endpoint

/-- Whether a request is for an endpoint. -/
def admits {σ : Type} (e : Endpoint σ) (r : Http.Request) : Bool :=
  e.methods.contains r.method && e.form.admits r.path

/-- The endpoint of one method and one path. -/
def only {σ : Type} (method path : String) (reply : Call → σ → Reply σ) : Endpoint σ :=
  { methods := [method], form := .only path, reply }

end Endpoint

/-- What is found for a request among endpoints. -/
inductive Found (σ : Type) where
  /-- An endpoint. -/
  | endpoint (e : Endpoint σ)
  /-- An endpoint for other methods. -/
  | otherMethods (methods : List String)
  /-- An endpoint under a path that differs by slashes at its end. -/
  | otherPath (path : String)
  /-- Nothing. -/
  | nothing

/-- What is found for a request among endpoints; the first counts. -/
def find {σ : Type} (endpoints : List (Endpoint σ)) (r : Http.Request) : Found σ :=
  match endpoints.find? (·.admits r) with
  | some e => .endpoint e
  | none =>
    match endpoints.find? (·.form.admits r.path) with
    | some e => .otherMethods e.methods
    | none =>
      let other := Http.otherForm r.path
      if r.path ≠ "/" ∧ endpoints.any (·.form.admits other) then .otherPath other else .nothing

/-! ### Services -/

/-- A service. -/
structure Service (σ : Type) where
  /-- Its name. -/
  name : String
  /-- Its settings. -/
  config : ServiceConfig
  /-- The least severity of its log. -/
  leastSeverity : Nat
  /-- The endpoints that it has of its own. -/
  endpoints : List (Endpoint σ) := []
  /-- What it tells of its health. -/
  details : σ → Except Fault Entries := fun _ => .ok []
  /-- Its state. -/
  state : σ

/-- The environment of a service under development, which shows its pages and answers to all
origins. -/
def localEnvironment : String := "local"

namespace Service

variable {σ : Type}

/-- Whether a service is under development. -/
def isLocal (s : Service σ) : Bool := s.config.env == localEnvironment

/-- Which origins may read the answers of a service. -/
def origins (s : Service σ) : Http.Origins := if s.isLocal then .all else .own

/-- A service with its state changed. -/
def adjust [Metered σ] (f : Collector → Collector) (s : Service σ) : Service σ :=
  { s with state := Metered.adjust f s.state }

/-- The metrics of a service. -/
def collector [Metered σ] (s : Service σ) : Collector := Metered.collector s.state

/-- The source of the events that a service itself logs. -/
def source (s : Service σ) : String := if s.name = "" then "root" else s.name

/-- An event that a service itself logs. -/
def event (s : Service σ) (level : Level) (event : String) (fields : List (String × Value))
    (withFailure : Bool := false) : LogEvent :=
  { level, source := s.source, event, fields, withFailure }

end Service
end OfferRules

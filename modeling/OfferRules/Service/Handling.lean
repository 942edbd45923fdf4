import OfferRules.Service.Standard

/-!
# Handling requests

A service handles a request in layers.  The innermost finds the endpoint, whose reply is settled:
a refusal becomes an answer to the caller and is counted.  Around it, questions for leave of other
origins are answered.  Then the request is counted and logged, and its answer gets the name of the
request.  Outermost, a fault that no other layer has met is counted as an error and answered
without details; such a request is not among those that are counted and named.

## Main definitions

* `Handled` — the outcome of the inner layers.
* `Service.reply`, `Service.settle`, `Service.respond` — the inner layers.
* `Outcome`, `Service.handle` — the whole.
-/

namespace OfferRules

/-- The outcome of the inner layers. -/
structure Handled (σ : Type) where
  /-- The state after the request. -/
  state : σ
  /-- What is logged. -/
  log : List LogRecord := []
  /-- The answer. -/
  answer : Except Fault Http.Response

/-- The outcome of a request. -/
structure Outcome (σ : Type) where
  /-- The service after it. -/
  service : Service σ
  /-- The answer. -/
  response : Http.Response
  /-- What is logged, whatever the level. -/
  log : List LogRecord
  /-- The fault that was not met, if there is one. -/
  fault : Option Fault := none

/-- The header with the name of a request. -/
def requestIdHeader : String := "x-request-id"

/-- The code under which faults are counted. -/
def faultCode : String := Refusal.Kind.internal.code

namespace Service

variable {σ : Type}

/-! ### The inner layers -/

/-- The reply to a request. -/
def reply [Metered σ] (s : Service σ) (o : Occasion) (r : Http.Request) : Reply σ :=
  match find s.allEndpoints r with
  | .endpoint e => e.reply ⟨o, r, (e.form.parameter? r.path).getD ""⟩ s.state
  | .otherMethods methods => { state := s.state, ending := .answered (.notAllowed methods) }
  | .otherPath path => { state := s.state, ending := .answered (.redirect path) }
  | .nothing => { state := s.state, ending := .answered .notFound }

/-- The fault of a refusal that makes no answer. -/
def brokenRefusal (issues : List Issue) : Fault :=
  .outside "ValidationError" ("; ".intercalate (issues.map fun i => i.cause.message))

/-- The answer to the caller that carries a refusal. -/
def refusalAnswer (id : String) (r : Refusal) : Except Fault Http.Response :=
  match r.answer (.text id) with
  | .ok v => Http.Response.strict 400 v
  | .error issues => .error (brokenRefusal issues)

/-- The event of a refusal. -/
def refusalEvent (s : Service σ) (r : Refusal) : LogEvent :=
  s.event .warning "Service error"
    [("code", r.code), ("message", r.message), ("details", r.details)]

/-- Settles a reply to the request of some name. -/
def settle [Metered σ] (s : Service σ) (id : String) (reply : Reply σ) : Handled σ :=
  let log (events : List LogEvent) : List LogRecord :=
    events.map fun event => ⟨⟨some id, reply.player⟩, event⟩
  match reply.ending with
  | .answered r => { state := reply.state, log := log reply.events, answer := .ok r }
  | .failed f => { state := reply.state, log := log reply.events, answer := .error f }
  | .refused r =>
    { state := Metered.adjust (·.recordError r.code.display.shown) reply.state
      log := log (reply.events ++ [s.refusalEvent r])
      answer := refusalAnswer id r }

/-- The outcome of the inner layers for the request of some name. -/
def respond [Metered σ] (s : Service σ) (o : Occasion) (id : String) (r : Http.Request) :
    Handled σ :=
  match s.origins.preflight? r with
  | some response => { state := s.state, answer := .ok response }
  | none =>
    let handled := s.settle id (s.reply o r)
    { handled with answer := handled.answer.map (s.origins.decorate r) }

/-! ### The outer layers -/

/-- The name of a request: the one that it brings, or a fresh one. -/
def requestId (o : Occasion) (r : Http.Request) : String :=
  (r.header? requestIdHeader).getD o.freshId

/-- The event of a request that was answered. -/
def requestEvent (s : Service σ) (r : Http.Request) (status : Nat) : LogEvent :=
  s.event .info "HTTP request"
    [("method", .text r.method), ("path", .text r.path), ("status_code", .int status)]

/-- The answer to a request that ended in a fault. -/
def faultAnswer : Http.Response :=
  .document 500 (.record [("code", .text faultCode), ("message", .text "Internal server error"),
    ("details", .record [])])

/-- The event of a fault. -/
def faultEvent (s : Service σ) (f : Fault) : LogEvent :=
  s.event .error "Unhandled exception" [("error", .text f.message)] true

/-- Counts a request that was answered with a status. -/
def countRequest [Metered σ] (s : Service σ) (o : Occasion) (r : Http.Request) (status : Nat) :
    Service σ :=
  s.adjust (·.recordRequest r.method r.path (toString status) (.finite false o.duration))

/-- Handles a request. -/
def handle [Metered σ] (s : Service σ) (o : Occasion) (r : Http.Request) : Outcome σ :=
  let id := requestId o r
  let handled := s.respond o id r
  let after := { s with state := handled.state }
  match handled.answer with
  | .ok response =>
    { service := after.countRequest o r response.status
      response := response.withHeader requestIdHeader id
      log := handled.log ++ [⟨⟨some id, none⟩, s.requestEvent r response.status⟩] }
  | .error f =>
    { service := after.adjust (·.recordError faultCode)
      response := faultAnswer
      log := handled.log ++ [⟨⟨some id, none⟩, s.faultEvent f⟩]
      fault := some f }

end Service
end OfferRules

import OfferRules.Service.Basic

/-!
# The endpoints that every service has

Every service tells of its health, shows its metrics and describes its endpoints, and under
development it has pages that present the description.

## Main definitions

* `Service.title`, `Service.description` — how a service is called.
* `Service.healthReply`, `Service.metricsReply`, `Service.document`, `Service.page` — what the
  endpoints show.
* `Service.allEndpoints` — the endpoints, those of the service itself among them.
* `Launch`, `Service.launch` — with what a service is started.
-/

namespace OfferRules

/-! ### Titles -/

/-- A text with the first letter of each word in its capital form and the others in their small
one, for letters of ASCII. -/
def titled (s : String) : String :=
  String.ofList ((s.toList.foldl (fun found c =>
    let inWord := match found with
      | d :: _ => d.isAlpha
      | [] => false
    (if inWord then c.toLower else c.toUpper) :: found) []).reverse)

namespace Service

variable {σ : Type}

/-- The title of a service. -/
def title (s : Service σ) : String := titled s.name ++ " Service"

/-- The description of the service of some title. -/
def describe (title : String) : String := "Promotion Rule Engine - " ++ title

/-- The description of a service. -/
def description (s : Service σ) : String := describe s.title

/-! ### Endpoints -/

/-- The fields of the answer of a service in good health. -/
def healthFields (s : Service σ) (o : Occasion) : Entries :=
  [(.text "service", .text s.name), (.text "status", .text "healthy"),
    (.text "timestamp", .text o.now.iso),
    (.text "uptime_seconds", .double (.finite false o.uptime)),
    (.text "version", .text serviceVersion)]

/-- The reply to a question for the health of a service. -/
def healthReply [Metered σ] (s : Service σ) (call : Call) (state : σ) : Reply σ :=
  match s.details state with
  | .ok details =>
    { state := Metered.adjust (·.recordHealthCheck "ok") state
      ending := .ofExcept (Http.Response.strict 200
        (.map ((s.healthFields call.occasion).override details))) }
  | .error f =>
    { state := Metered.adjust (·.recordHealthCheck "error") state
      events := [s.event .error "Health check failed" [("error", .text f.message)]]
      ending := .answered (.document 503 (.record [("service", .text s.name),
        ("status", .text "error"), ("error", .text f.message)])) }

/-- The kind of an exposition. -/
def expositionKind : String := "text/plain; version=1.0.0; charset=utf-8"

/-- The reply with the metrics of a service. -/
def metricsReply [Metered σ] (_ : Call) (state : σ) : Reply σ :=
  { state
    ending := .answered (.ofText 200 expositionKind
      (String.join ((Metered.collector state).exposition.map (· ++ "\n")))) }

/-- The endpoints of health and metrics, and those of the service itself. -/
def describedEndpoints [Metered σ] (s : Service σ) : List (Endpoint σ) :=
  .only "GET" "/health" s.healthReply :: .only "GET" "/metrics/prometheus" metricsReply ::
    s.endpoints

/-- The document that describes the endpoints of a service. -/
def document [Metered σ] (s : Service σ) : Value :=
  .record [("openapi", .text "3.1.0"),
    ("info", .record [("title", .text s.title), ("description", .text s.description),
      ("version", .text serviceVersion)]),
    ("paths", .record (s.describedEndpoints.map fun e =>
      (e.form.text, .record (e.methods.map fun m => (Settings.lowered m, .record [])))))]

/-- The path of the document that describes a service. -/
def documentPath : String := "/openapi.json"

/-- A page that presents a service. -/
def page (s : Service σ) : String :=
  "<!DOCTYPE html>\n<html><head><title>" ++ s.title ++ "</title></head><body><h1>" ++ s.title ++
    "</h1><p>" ++ s.description ++ "</p></body></html>\n"

/-- The paths of the pages. -/
def pagePaths : List String := ["/docs", "/docs/oauth2-redirect", "/redoc"]

/-- An endpoint that always answers in the same way. -/
def shown (answer : Http.Response) (path : String) : Endpoint σ :=
  { methods := ["GET", "HEAD"], form := .only path
    reply := fun _ state => { state, ending := .answered answer } }

/-- The endpoints of the document and of the pages. -/
def pages [Metered σ] (s : Service σ) : List (Endpoint σ) :=
  shown (.document 200 s.document) documentPath ::
    if s.isLocal then pagePaths.map (shown (.ofText 200 "text/html; charset=utf-8" s.page)) else []

/-- All endpoints of a service. -/
def allEndpoints [Metered σ] (s : Service σ) : List (Endpoint σ) :=
  s.pages ++ s.describedEndpoints

end Service

/-! ### Launching -/

/-- With what a service is started. -/
structure Launch where
  /-- Its title. -/
  title : String
  /-- Its description. -/
  description : String
  /-- Its version. -/
  version : String
  /-- The paths of its two pages, if it has them. -/
  pages : Option (String × String)
  /-- The host. -/
  host : String
  /-- The port. -/
  port : Int
  /-- The level of the log. -/
  logLevel : String

/-- With what a service is started. -/
def Service.launch {σ : Type} (s : Service σ) : Launch :=
  { title := s.title, description := s.description, version := serviceVersion
    pages := if s.isLocal then some ("/docs", "/redoc") else none
    host := s.config.host, port := s.config.port, logLevel := Settings.lowered s.config.logLevel }

end OfferRules

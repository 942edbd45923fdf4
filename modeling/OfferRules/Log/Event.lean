import OfferRules.Log.Notice
import OfferRules.Value.Literal

/-!
# Log events

An event of a log has a level, a source and fields.  The context in which it arises, the request
and the player at work, is added to its fields, and so is the service, which is the part of the
source before its first point.

## Main definitions

* `LogEvent`, `Notice.logEvent` — events, and the event of a notice.
* `LogContext` — the request and the player at work.
* `LogEvent.line` — the fields of an event with its context.
* `LogRecord` — an event in its context.
-/

namespace OfferRules

/-- An event of a log. -/
structure LogEvent where
  /-- The level. -/
  level : Level
  /-- The source. -/
  source : String
  /-- The text of the event. -/
  event : String
  /-- The fields. -/
  fields : List (String × Value) := []
  /-- Whether the event comes with the failure that caused it. -/
  withFailure : Bool := false

/-- The event of a notice. -/
def Notice.logEvent (n : Notice) : LogEvent :=
  { level := n.level, source := n.source, event := n.event, fields := n.fields
    withFailure := n.withFailure }

/-! ### Contexts -/

/-- The request and the player at work. -/
structure LogContext where
  /-- The name of the request. -/
  request : Option String := none
  /-- The name of the player. -/
  player : Option Text := none

/-- A field with a text, unless the text is missing or empty. -/
def presentField (name : String) (text : Option Text) : List (Atom × Value) :=
  match text with
  | some t => if t = "" then [] else [(.text name, .text t)]
  | none => []

/-- The service to which a source belongs: the part before its first point, if it has one. -/
def serviceOf? (source : Text) : Option Text :=
  if source.points.contains '.' then some (.ofPoints (source.points.takeWhile (· != '.')))
  else none

namespace LogContext

/-- The context with the name of a player; a value that is none takes the name away. -/
def withPlayer (c : LogContext) (player : Value) : LogContext :=
  { c with player := if player.isNull then none else some player.display }

/-- The entries of an event with the service that its source belongs to. -/
def addService (entries : Entries) : Entries :=
  match Entries.get? (.text "logger") entries with
  | some (.text source) =>
    match serviceOf? source with
    | some service => Entries.insert (.text "service") (.text service) entries
    | none => entries
  | _ => entries

/-- The entries of an event with its service and its context. -/
def addTo (c : LogContext) (entries : Entries) : Entries :=
  (addService entries).override
    (presentField "request_id" (c.request.map .whole) ++ presentField "player_id" c.player)

end LogContext

/-! ### Lines -/

/-- The entries of an event in its context. -/
def LogEvent.line (c : LogContext) (e : LogEvent) : Entries :=
  c.addTo (Entries.ofList
    ((e.fields.map fun f => (.text f.1, f.2)) ++
      [(.text "event", .text e.event), (.text "logger", .text e.source),
        (.text "level", .text e.level.label)] ++
      if e.withFailure then [(.text "exception", .bool true)] else []))

/-- An event in its context. -/
structure LogRecord where
  /-- The context. -/
  context : LogContext := {}
  /-- The event. -/
  event : LogEvent

/-- The entries of a record. -/
def LogRecord.line (r : LogRecord) : Entries := r.event.line r.context

/-- The records of at least some severity. -/
def LogRecord.atLeast (least : Nat) (records : List LogRecord) : List LogRecord :=
  records.filter fun r => decide (least ≤ r.event.level.severity)

end OfferRules

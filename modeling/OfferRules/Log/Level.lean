import OfferRules.Fault

/-!
# Levels of log events

Every log event has a level, and a log keeps the events from a least level on.  The least level
is set by name, in any case of letters; a name that is none stands for the level of information.

## Main definitions

* `Level` — the levels of events.
* `Level.severity`, `Level.label` — their order and their names.
* `threshold` — the least severity that a name sets.
-/

namespace OfferRules

/-- The level of a log event. -/
inductive Level where
  /-- Details of decisions. -/
  | debug
  /-- Information on the normal course. -/
  | info
  /-- Something unexpected that is handled. -/
  | warning
  /-- A failure. -/
  | error
deriving DecidableEq, Repr

namespace Level

/-- The severity of a level. -/
def severity : Level → Nat
  | debug => 10
  | info => 20
  | warning => 30
  | error => 40

/-- The name of a level. -/
def label : Level → String
  | debug => "debug"
  | info => "info"
  | warning => "warning"
  | error => "error"

end Level

/-- The capital form of a letter of a level's name; two letters beyond ASCII share capitals with
letters of it. -/
def capital (c : Char) : Char :=
  if c = 'ı' then 'I' else if c = 'ſ' then 'S' else c.toUpper

/-- The severities that names in capitals set. -/
def severityTable : List (String × Nat) :=
  [("CRITICAL", 50), ("FATAL", 50), ("ERROR", 40), ("WARNING", 30), ("WARN", 30), ("INFO", 20),
    ("DEBUG", 10), ("NOTSET", 0)]

/-- A layout of log lines that goes by a name in the table of levels but is none. -/
def basicLayout : String := "%(levelname)s:%(name)s:%(message)s"

/-- The least severity that a name sets: that of information if the name is unknown. -/
def threshold (name : String) : Except Fault Nat :=
  let capitals := String.ofList (name.toList.map capital)
  if capitals = "BASIC_FORMAT" then .error (.unknownLevel basicLayout)
  else .ok ((severityTable.lookup capitals).getD (Level.severity .info))

end OfferRules

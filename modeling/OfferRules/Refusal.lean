import OfferRules.Validation.Scalar
import OfferRules.Value.Literal

/-!
# Refusals

A refusal is a failure that a service reports to its caller, under a code, with a message and
details.  The answer that carries it is checked like any other document, since callers may give
values of any kind.

## Main definitions

* `Refusal.Kind` — the kinds, with their codes and messages.
* `Refusal`, `Refusal.make` — a refusal, with what is left out filled in.
* `Refusal.text`, `Refusal.answer` — its wording, and the answer that carries it.
-/

namespace OfferRules

/-- The kinds of refusals. -/
inductive Refusal.Kind where
  /-- A refusal with a code of its own. -/
  | service
  /-- What was given is not valid. -/
  | validation
  /-- A pattern cannot be read. -/
  | pattern
  /-- A rule set cannot be loaded. -/
  | ruleSet
  /-- Something unexpected. -/
  | internal
deriving DecidableEq, Repr

namespace Refusal.Kind

/-- The class under which a kind is known. -/
def className : Kind → String
  | service => "PromotionServiceException"
  | validation => "ValidationError"
  | pattern => "PatternError"
  | ruleSet => "RuleSetLoadError"
  | internal => "InternalError"

/-- All kinds. -/
def all : List Kind := [service, validation, pattern, ruleSet, internal]

/-- The kind of a class. -/
def named? (name : String) : Option Kind := all.find? fun k => k.className == name

/-- The code of a kind that has one of its own. -/
def code : Kind → String
  | service => ""
  | validation => "VALIDATION_ERROR"
  | pattern => "PATTERN_ERROR"
  | ruleSet => "RULE_SET_LOAD_ERROR"
  | internal => "INTERNAL_ERROR"

/-- The message of a kind where none is given. -/
def message : Kind → String
  | service => ""
  | validation => "Validation failed"
  | pattern => "Invalid regular expression"
  | ruleSet => "Failed to load rule set"
  | internal => "Internal error"

end Refusal.Kind

/-- A failure that is reported to the caller. -/
structure Refusal where
  /-- Its kind. -/
  kind : Refusal.Kind
  /-- Its code. -/
  code : Value
  /-- Its message. -/
  message : Value
  /-- Its details. -/
  details : Value

namespace Refusal

/-- Details with a pattern, unless they have one. -/
def withPattern (pattern : Value) : Value → Value
  | .map es =>
    match Entries.get? (.text "pattern") es with
    | some _ => .map es
    | none => .map (es ++ [(.text "pattern", .text pattern.display)])
  | v => v

/-- The refusal of a kind, with a code if the kind has none of its own, a message, the pattern that
was refused, and details; empty details count as none. -/
def make (kind : Kind) (code : Value) (message : Option Value) (pattern details : Value) :
    Refusal :=
  let details := if details.isTruthy then details else .map []
  { kind
    code := if kind = .service then code else .text kind.code
    message := message.getD (.text kind.message)
    details := if kind = .pattern then withPattern pattern details else details }

/-- The wording of a refusal. -/
def text (r : Refusal) : Text := r.message.display

/-- Reads the details of an answer. -/
def readDetails : Value → Checked Value
  | .map es => .ok (.map es)
  | _ => .fail .notMapping

/-- The answer that carries a refusal, for the request of some name. -/
def answer (request : Value) (r : Refusal) : Checked Value :=
  let field (name : String) (v : Checked Value) : Checked Value := Checked.under (.key name) v
  Checked.ap (Checked.ap (Checked.ap
    ((field "request_id" ((readNullable (readText false) request).map fun
      | some s => .text s
      | none => .null)).map fun request code message details =>
        Value.record [("request_id", request), ("code", code), ("message", message),
          ("details", details)])
    (field "code" ((readText false r.code).map .text)))
    (field "message" ((readText false r.message).map .text)))
    (field "details" (readDetails r.details))

end Refusal
end OfferRules

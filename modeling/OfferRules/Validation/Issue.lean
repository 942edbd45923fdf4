import OfferRules.Fault
import OfferRules.Time.Iso8601
import OfferRules.Value.Basic

/-!
# Issues of documents

Reading a document by its definition collects all issues, each with its cause and the place in
the document.  A fault met on the way stands among the issues, where it was met.

## Main definitions

* `Issue.Cause` — the causes, with their kind and wording.
* `Issue` — a cause at a place.
* `Issue.fault?` — the fault that an issue stands for.
* `Checked` — a value read from a document, or the issues found.
-/

namespace OfferRules

/-- A step on the way to a place in a document. -/
inductive Step where
  /-- To the entry of a key. -/
  | key (name : Text)
  /-- To the item at a place, or the entry of a number. -/
  | index (n : Int)
deriving DecidableEq, Repr

/-- What is wrong at a place in a document. -/
inductive Issue.Cause where
  /-- A required entry is missing. -/
  | missing
  /-- The value is no text. -/
  | notText
  /-- The bytes are no text. -/
  | textEncoding
  /-- The value is no list. -/
  | notList
  /-- The value is no mapping. -/
  | notMapping
  /-- The value is no mapping that could be read by a definition. -/
  | notRecord (definition : String)
  /-- The value is no whole number. -/
  | notInteger
  /-- The text writes no whole number. -/
  | integerText
  /-- The whole number is too long. -/
  | integerSize
  /-- The number is not whole. -/
  | fractional
  /-- The number is not finite. -/
  | notFinite
  /-- The value is no number. -/
  | notNumber
  /-- The text writes no number. -/
  | numberText
  /-- The number is below a least one. -/
  | tooSmall (least : Int)
  /-- The value is no moment. -/
  | notMoment
  /-- The moment cannot be shown. -/
  | moment (p : MomentProblem)
  /-- The text writes no moment. -/
  | momentText (p : MomentProblem)
  /-- The value is no path of a file. -/
  | notPath
  /-- The document as a whole breaks a rule. -/
  | rule (text : String)
  /-- Reading the value ended in a fault. -/
  | fault (f : Fault)
deriving DecidableEq

namespace Issue.Cause

/-- The kind of an issue. -/
def kind : Cause → String
  | missing => "missing"
  | notText => "string_type"
  | textEncoding => "string_unicode"
  | notList => "list_type"
  | notMapping => "dict_type"
  | notRecord _ => "model_type"
  | notInteger => "int_type"
  | integerText => "int_parsing"
  | integerSize => "int_parsing_size"
  | fractional => "int_from_float"
  | notFinite => "finite_number"
  | notNumber => "float_type"
  | numberText => "float_parsing"
  | tooSmall _ => "greater_than_equal"
  | notMoment => "datetime_type"
  | moment _ => "datetime_parsing"
  | momentText _ => "datetime_from_date_parsing"
  | notPath => "path_type"
  | rule _ => "value_error"
  | fault f => f.className

/-- The wording of an issue. -/
def message : Cause → String
  | missing => "Field required"
  | notText => "Input should be a valid string"
  | textEncoding => "Input should be a valid string, unable to parse raw data as a unicode string"
  | notList => "Input should be a valid list"
  | notMapping => "Input should be a valid dictionary"
  | notRecord definition => "Input should be a valid dictionary or instance of " ++ definition
  | notInteger => "Input should be a valid integer"
  | integerText => "Input should be a valid integer, unable to parse string as an integer"
  | integerSize => "Unable to parse input string as an integer, exceeded maximum size"
  | fractional => "Input should be a valid integer, got a number with a fractional part"
  | notFinite => "Input should be a finite number"
  | notNumber => "Input should be a valid number"
  | numberText => "Input should be a valid number, unable to parse string as a number"
  | tooSmall least => "Input should be greater than or equal to " ++ toString least
  | notMoment => "Input should be a valid datetime"
  | moment p => "Input should be a valid datetime, " ++ p.message
  | momentText p => "Input should be a valid datetime or date, " ++ p.message
  | notPath => "Input is not a valid path for <class 'pathlib.Path'>"
  | rule text => "Value error, " ++ text
  | fault f => f.message

end Issue.Cause

/-- An issue of a document. -/
structure Issue where
  /-- What is wrong. -/
  cause : Issue.Cause
  /-- The way to the place. -/
  location : List Step := []
deriving DecidableEq

/-- The fault that an issue stands for, if it stands for one. -/
def Issue.fault? (i : Issue) : Option Fault :=
  match i.cause with
  | .fault f => some f
  | _ => none

/-- An issue seen from one step further out. -/
def Issue.under (step : Step) (i : Issue) : Issue := { i with location := step :: i.location }

/-- The value that stands for a step. -/
def Step.toValue : Step → Value
  | key name => .text name
  | index n => .int n

/-- An issue as a value. -/
def Issue.toValue (i : Issue) : Value :=
  .record [("type", .text i.cause.kind), ("loc", .list (i.location.map Step.toValue)),
    ("msg", .text i.cause.message)]

/-! ### Collecting issues -/

/-- A value read from a document, or the issues found. -/
abbrev Checked (α : Type) := Except (List Issue) α

namespace Checked

variable {α β : Type}

/-- A single issue. -/
def fail (cause : Issue.Cause) : Checked α := .error [{ cause }]

/-- A function and its argument, with the issues of both. -/
def ap (f : Checked (α → β)) (x : Checked α) : Checked β :=
  match f, x with
  | .ok f, .ok a => .ok (f a)
  | .ok _, .error e => .error e
  | .error e, .ok _ => .error e
  | .error e, .error e' => .error (e ++ e')

/-- What is read at a step, its issues seen from outside. -/
def under (step : Step) (x : Checked α) : Checked α :=
  x.mapError fun issues => issues.map (·.under step)

/-- The items of a list from a place on, with the issues of all. -/
def itemsFrom (read : Value → Checked α) : Nat → List Value → Checked (List α)
  | _, [] => .ok []
  | n, v :: rest =>
    ap ((under (.index n) (read v)).map List.cons) (itemsFrom read (n + 1) rest)

/-- The items of a list, with the issues of all. -/
def items (read : Value → Checked α) (vs : List Value) : Checked (List α) := itemsFrom read 0 vs

end Checked
end OfferRules

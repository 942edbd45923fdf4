import OfferRules.RuleSet.Order
import OfferRules.Validation.Scalar
import OfferRules.Value.Literal

/-!
# Rule sets as documents

A rule set is written as a mapping with a list of rules.  Each rule is a mapping; entries that
the definition does not know are ignored, and all issues of a document are collected, in the
order of the rules and of the definition's entries.  Two rules of one name break the document as
a whole.  A fault met while reading is the end of it, whatever other issues there are.

## Main definitions

* `ConditionDefinition.read`, `RuleDefinition.read` — the parts of a document.
* `RuleSet.readRules` — the rules of a document, in its order.
* `RuleSet.LoadError`, `SourceProblem` — why there are no rules.
* `RuleSet.parse` — the rules of a document by descending priority.
-/

namespace OfferRules

/-- Reads a condition from the entries of its mapping. -/
def ConditionDefinition.fields (entries : Entries) : Checked Condition :=
  Checked.ap
    (Checked.ap
      ((Field.required ["field"] (readText false) entries).map fun field operator value =>
        { field, operator, value })
      (Field.required ["operator", "op"] (readText false) entries))
    (Field.optional ["value"] Value.null .ok entries)

/-- Reads a condition. -/
def ConditionDefinition.read : Value → Checked Condition :=
  readRecord "ConditionDefinition" ConditionDefinition.fields

/-- Reads a window from the entries of its mapping. -/
def TimeWindowDefinition.fields (entries : Entries) : Checked TimeWindow :=
  Checked.ap
    ((Field.optional ["start"] none (readNullable readMoment) entries).map fun start finish =>
      { start, finish })
    (Field.optional ["end"] none (readNullable readMoment) entries)

/-- Reads a window. -/
def TimeWindowDefinition.read : Value → Checked TimeWindow :=
  readRecord "TimeWindowDefinition" TimeWindowDefinition.fields

namespace Promotion

/-- The step to an entry under a key of any kind. -/
def stepTo : Atom → Step
  | .text t => .key t.shown
  | .bool b => .index (if b then 1 else 0)
  | .number (.int n) => .index n
  | a => .key a.literal

/-- Reads the entries of a promotion: the keys are texts, the values are kept. -/
def entries : List (Atom × Value) → Checked (List (Atom × Value))
  | [] => .ok []
  | (k, v) :: rest =>
    Checked.ap
      ((Checked.under (stepTo k) (Checked.under (.key "[key]") (readText true (.atom k)))).map
        fun key more => (.text key, v) :: more)
      (entries rest)

/-- Reads a promotion. -/
def read : Value → Checked Entries
  | .map es => (entries es).map Entries.ofList
  | _ => .fail .notMapping

end Promotion

namespace RuleDefinition

/-- The priority in force: none counts as zero, and both zeros are the whole number. -/
def priorityInForce (p : Option Number) : Number :=
  match p with
  | some n => if n.isZero then 0 else n
  | none => 0

/-- The logic in force: none and the empty one are the logic of all conditions. -/
def logicInForce (l : Option Text) : Text :=
  match l with
  | some t => if t = "" then "AND" else t
  | none => "AND"

/-- The name under which a window is written, and one that is accepted in its place. -/
def windowNames : List Text := ["timeWindow", "time_window"]

/-- Reads a rule from the entries of its mapping. -/
def fields (es : Entries) : Checked Rule :=
  let make (id : Text) (priority : Option Number) (logic : Option Text)
      (conditions : Option (List Condition)) (window : Option TimeWindow)
      (promotion : Option Entries) (weight : Option Double) : Rule :=
    { id
      priority := priorityInForce priority
      logic := logicInForce logic
      conditions := conditions.getD []
      window
      promotion := promotion.getD []
      weight := weight.map .double }
  let id := Field.required ["id"] (readText true) es
  let priority := Field.optional ["priority"] (some 0) (readNullable readNumber) es
  let logic := Field.optional ["logic"] none (readNullable (readText true)) es
  let conditions :=
    Field.optional ["conditions"] none (readNullable (readList ConditionDefinition.read)) es
  let window := Field.optional windowNames none (readNullable TimeWindowDefinition.read) es
  let promotion := Field.optional ["promotion"] none (readNullable Promotion.read) es
  let weight := Field.optional ["weight"] none (readNullable readDouble) es
  Checked.ap (Checked.ap (Checked.ap (Checked.ap (Checked.ap (Checked.ap
    (id.map make) priority) logic) conditions) window) promotion) weight

/-- Reads a rule. -/
def read : Value → Checked Rule := readRecord "RuleDefinition" fields

end RuleDefinition

namespace RuleSet

/-- The first of some names that an earlier one repeats. -/
def firstRepeated? (seen : List Text) : List Text → Option Text
  | [] => none
  | id :: rest => if seen.contains id then some id else firstRepeated? (id :: seen) rest

/-- The rules of a mapping that writes a rule set, in its order. -/
def readRules (es : Entries) : Checked (List Rule) :=
  match Field.required ["rules"] (readList RuleDefinition.read) es with
  | .error e => .error e
  | .ok rules =>
    match firstRepeated? [] (rules.map Rule.id) with
    | some id => .fail (.rule ("duplicate rule id: " ++ id.shown))
    | none => .ok rules

/-- Why a rule set could not be loaded. -/
inductive LoadError where
  /-- The document is no mapping. -/
  | notMapping
  /-- The document has issues. -/
  | invalid (issues : List Issue)
  /-- The file cannot be read, for a reason in prose. -/
  | unreadable (path reason : String)
  /-- It is refused from outside, with a message and details. -/
  | outside (message : String) (details : Value)

namespace LoadError

/-- The wording of an error. -/
def message : LoadError → String
  | notMapping => "Rule set document must be a mapping"
  | invalid _ => "Invalid rule set document"
  | unreadable path _ => "Cannot read rule file " ++ path
  | outside text _ => text

/-- The details of an error. -/
def details : LoadError → Value
  | notMapping => .record []
  | invalid issues => .record [("errors", .list (issues.map Issue.toValue))]
  | unreadable path reason => .record [("path", .text path), ("error", .text reason)]
  | outside _ details => details

end LoadError

end RuleSet

/-- Why there are no rules. -/
inductive SourceProblem where
  /-- They are refused. -/
  | refused (cause : RuleSet.LoadError)
  /-- Finding them ended in a fault. -/
  | fault (cause : Fault)

namespace RuleSet

/-- Why a document with some issues gives no rules: the first fault among them, if there is one. -/
def problemOf (issues : List Issue) : SourceProblem :=
  match issues.findSome? Issue.fault? with
  | some f => .fault f
  | none => .refused (.invalid issues)

/-- The rules of a document by descending priority. -/
def parse : Value → Except SourceProblem (List Rule)
  | .map es =>
    match readRules es with
    | .ok rules => .ok (byPriority rules)
    | .error issues => .error (problemOf issues)
  | _ => .error (.refused .notMapping)

end RuleSet
end OfferRules

import OfferRules.Number.Floating
import OfferRules.Text.Lowercase
import OfferRules.Yaml.Base64
import OfferRules.Yaml.Tag

/-!
# The values of scalars

What the text of a scalar stands for under a tag.  Numbers may be written in steps of sixty, with
colons between the steps.

## Main definitions

* `Yaml.wholeNumber`, `Yaml.double`, `Yaml.truth`, `Yaml.moment`, `Yaml.bytes` — the readings by
  kind.
* `Yaml.atom` — the value of a scalar; some tags are those of no scalar.
-/

namespace OfferRules.Yaml

/-- An outcome with its fault as a problem. -/
def faulty {α : Type} : Except Fault α → Except Problem α
  | .ok a => .ok a
  | .error f => .error (.fault f)

/-- The sign at the front of a numeral, and the numeral without it; it must not be empty. -/
def signed (ps : List CodePoint) : Except Problem (Bool × List CodePoint) :=
  match ps with
  | [] => .error (.fault .emptyNumeral)
  | .char '-' :: rest => .ok (true, rest)
  | .char '+' :: rest => .ok (false, rest)
  | ps => .ok (false, ps)

/-- The texts between the colons of a text. -/
def steps (ps : List CodePoint) : List Text := (ScalarForm.cutAt (.char ':') ps).map .ofPoints

/-- The number of steps of sixty, the greatest first. -/
def ofSixties (parts : List Int) : Int := parts.foldl (fun n part => 60 * n + part) 0

/-- The whole number that a text without sign writes. -/
def magnitude (ps : List CodePoint) : Except Problem Int :=
  match ps with
  | [] => .error (.fault .emptyNumeral)
  | [.char '0'] => .ok 0
  | .char '0' :: .char 'b' :: digits => faulty (parseWhole 2 (.ofPoints digits))
  | .char '0' :: .char 'x' :: digits => faulty (parseWhole 16 (.ofPoints digits))
  | .char '0' :: _ => faulty (parseWhole 8 (.ofPoints ps))
  | _ =>
    if ps.contains (.char ':') then do
      return ofSixties (← (steps ps).mapM fun part => faulty (parseWhole 10 part))
    else faulty (parseWhole 10 (.ofPoints ps))

/-- The whole number that a text writes. -/
def wholeNumber (t : Text) : Except Problem Int := do
  let (negative, digits) ← signed (t.points.filter (· != .char '_'))
  let n ← magnitude digits
  return if negative then -n else n

/-- A sum of steps of sixty with one more step, given with how often it counts. -/
def addStep (sum : Double × Nat) (part : Double) : Except Problem (Double × Nat) :=
  (Double.ofInt? sum.2).elim (.error (.fault .overflow)) fun factor =>
    .ok (sum.1 + part * factor, 60 * sum.2)

/-- The sum of steps of sixty, the least first. -/
def sumOfSixties (parts : List Double) : Except Problem Double := do
  return (← parts.foldlM addStep (.zero, 1)).1

/-- The double that a text without sign, in lower case, writes. -/
def doubleSize (ps : List CodePoint) : Except Problem Double :=
  if ps = Text.points ".inf" then .ok (.infinite false)
  else if ps = Text.points ".nan" then .ok .nan
  else if ps.contains (.char ':') then do
    let parts ← (steps ps).mapM fun part => faulty (parseDouble part)
    sumOfSixties parts.reverse
  else faulty (parseDouble (.ofPoints ps))

/-- The double that a text writes. -/
def double (t : Text) : Except Problem Double := do
  let (negative, digits) ← signed (lowerFrom [] (t.points.filter (· != .char '_')))
  let d ← doubleSize digits
  return if negative then d.negated else d

/-- The words for truth values in lower case. -/
def truthWords : List (Text × Bool) :=
  [("yes", true), ("no", false), ("true", true), ("false", false), ("on", true), ("off", false)]

/-- The truth value of a word in any case. -/
def truth (t : Text) : Except Problem Bool :=
  match truthWords.lookup t.lower with
  | some b => .ok b
  | none => .error (.fault (.missingKey t.lower))

/-- The stamp that a text writes; a line end after it does not count. -/
def stamp? : Text → Option Stamp
  | .whole s =>
    let cs := s.toList
    Stamp.ofText? (if cs.getLast? = some '\n' then cs.dropLast else cs)
  | .torn _ _ _ => none

/-- The date or reading that a text writes. -/
def moment (t : Text) : Except Problem Atom :=
  match stamp? t with
  | some stamp => stamp.atom
  | none => .error (.fault .noTimestamp)

/-- The bytes that a text writes. -/
def bytes : Text → Except Problem (List UInt8)
  | .whole s => Base64.decode s.toList
  | .torn _ _ _ => .error (.defect .bytes)

/-- The value of a scalar under a tag. -/
def atom (tag : Tag) (t : Text) : Except Problem Atom :=
  match tag with
  | .null => .ok .null
  | .bool => (truth t).map .bool
  | .int => (wholeNumber t).map fun n => .number (.int n)
  | .float => (double t).map fun d => .number (.double d)
  | .str => .ok (.text t)
  | .binary => (bytes t).map .bytes
  | .timestamp => moment t
  | .seq | .map | .set | .omap | .pairs => .error (.defect .contentForm)
  | .merge | .value | .other => .error (.defect .unknownTag)

end OfferRules.Yaml

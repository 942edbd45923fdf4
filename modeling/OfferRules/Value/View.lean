import OfferRules.Json.Writer
import OfferRules.Number.Whole
import OfferRules.Text.Blank
import OfferRules.Text.Lowercase

/-!
# Values as numbers and as texts

Comparisons see a value as a double, text operators see it as a text.  A text counts as the
number it writes: nothing but blanks as zero, a whole number after `0x`, `0o` or `0b`, or a
signed decimal or `Infinity`.  Lists count as their only item, and what makes no number is
not-a-number.

## Main definitions

* `Numeral.radix?`, `Numeral.decimal?` — the two forms of numbers in texts.
* `Value.toNumber` — a value as a double; it fails on whole numbers too large for one.
* `Value.toText` — a value as a text; it fails on mappings that have no JSON form.
* `Value.contains` — whether the text of a value holds that of another, without regard to case.
-/

namespace OfferRules

/-! ### Numbers in texts -/

namespace Numeral

/-- The number that digits of a base write; there must be at least one. -/
def inBase? (base : Nat) (cs : List Char) : Option Nat :=
  if cs.isEmpty then none
  else
    cs.foldl (fun n c => n.bind fun n => (digitIn? base c).map fun d => base * n + d) (some 0)

/-- The base that a letter after a leading zero announces. -/
def base? (c : Char) : Option Nat :=
  if c = 'x' || c = 'X' then some 16
  else if c = 'o' || c = 'O' then some 8
  else if c = 'b' || c = 'B' then some 2
  else none

/-- The whole number written after `0x`, `0o` or `0b`. -/
def radix? : List Char → Option Nat
  | '0' :: c :: digits => (base? c).bind fun base => inBase? base digits
  | _ => none

/-- The double nearest to a decimal with an optional sign, or a signed `Infinity`. -/
def decimal? (cs : List Char) : Option Double :=
  let (negative, body) := Double.splitSign cs
  if body = "Infinity".toList then some (.infinite negative)
  else (Decimal.parse? body).map (Decimal.toDouble negative)

/-- A whole number as a double, unless it is too large. -/
def ofInt (n : Int) : Except Fault Double := (Double.ofInt? n).elim (.error .overflow) .ok

/-- A string as a double. -/
def ofString (s : String) : Except Fault Double :=
  let body := strip s.toList
  if body.isEmpty then .ok .zero
  else match radix? body with
    | some n => ofInt n
    | none => .ok ((decimal? body).getD .nan)

/-- A text as a double; a torn one writes none. -/
def ofText : Text → Except Fault Double
  | .whole s => ofString s
  | .torn _ _ _ => .ok .nan

end Numeral

/-! ### The views -/

namespace Value

/-- A value as a double. -/
def toNumber : Value → Except Fault Double
  | .atom (.bool b) => .ok (if b then .one else .zero)
  | .atom (.number (.int n)) => Numeral.ofInt n
  | .atom (.number (.double d)) => .ok d
  | .atom (.text t) => Numeral.ofText t
  | .list [] => .ok .zero
  | .list [v] => toNumber v
  | _ => .ok .nan
termination_by structural v => v

/-- A leaf as a text; a double that is whole loses its point. -/
def atomText : Atom → Except Fault Text
  | .null => .ok "null"
  | .bool b => .ok (if b then "true" else "false" : String)
  | .number (.int n) => (intText n).map .whole
  | .number (.double d) => .ok (match d.toInt? with
      | some n => toString n
      | none => d.text : String)
  | a => .ok (Value.atom a).display

mutual

/-- A value as a text: items of a list are joined by commas, mappings are JSON documents. -/
def toText : Value → Except Fault Text
  | .atom a => atomText a
  | .list items => (itemTexts items).map fun ts => Text.joined "," ts
  | .map entries => (Json.write (.map entries)).map .whole
  | .set members => (Value.set members).display?
  | .pair a b => (Value.pair a b).display?
termination_by structural v => v

/-- The texts of the items of a list; an item that is none has an empty text. -/
def itemTexts : List Value → Except Fault (List Text)
  | [] => .ok []
  | v :: rest =>
    match (if v.isNull then .ok "" else toText v), itemTexts rest with
    | .ok t, .ok ts => .ok (t :: ts)
    | .error e, _ => .error e
    | _, .error e => .error e
termination_by structural vs => vs

end

end Value

/-! ### Containment -/

section
variable {α : Type} [BEq α]

/-- Whether a sequence begins with another. -/
def startsWith : List α → List α → Bool
  | _, [] => true
  | [], _ :: _ => false
  | a :: as, b :: bs => a == b && startsWith as bs

/-- Whether a sequence holds another. -/
def holds : List α → List α → Bool
  | [], part => part.isEmpty
  | a :: as, part => startsWith (a :: as) part || holds as part

end

/-- Whether the text of a value holds that of another, both in lower case. -/
def Value.contains (whole part : Value) : Except Fault Bool :=
  match part.toText, whole.toText with
  | .ok p, .ok w => .ok (holds w.lower.points p.lower.points)
  | .error e, _ => .error e
  | _, .error e => .error e

end OfferRules

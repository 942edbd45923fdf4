import OfferRules.Fault
import OfferRules.Value.Basic

/-!
# Literal texts of values

The literal of a value shows its structure: texts in quotes, lists in brackets, mappings in
braces.  Displayed by itself, a text stands without quotes and a date or a reading in ISO 8601
form; all else is displayed by its literal.

## Main definitions

* `intText` — the text of a whole number.
* `Atom.literal`, `Value.literal` — the literal.
* `Value.display` — a value displayed by itself.
* `Value.isWritable`, `Value.display?` — whether a value has a display, and the display.
-/

namespace OfferRules

/-- A whole number as text, unless it has too many digits. -/
def intText (n : Int) : Except Fault String :=
  if Nat.pow 10 numeralLimit ≤ n.natAbs then .error .longInteger else .ok (toString n)

/-- The literal of an offset from universal time, given in microseconds. -/
def offsetLiteral (micros : Int) : String :=
  if micros = 0 then "datetime.timezone.utc"
  else "datetime.timezone(" ++ spanText micros ++ ")"

/-- The literal of a date. -/
def Date.literal (d : Date) : String :=
  "datetime.date(" ++ ", ".intercalate ([d.year, d.month, d.day].map toString) ++ ")"

/-- The literal of a clock reading: seconds and microseconds only as far as they are needed. -/
def DateTime.literal (t : DateTime) : String :=
  let fields := [t.date.year, t.date.month, t.date.day, t.hour, t.minute] ++
    (if t.second = 0 ∧ t.micro = 0 then [] else [t.second]) ++
    (if t.micro = 0 then [] else [t.micro])
  "datetime.datetime(" ++ ", ".intercalate (fields.map toString) ++
    (match t.offset with
      | some micros => ", tzinfo=" ++ offsetLiteral micros
      | none => "") ++ ")"

/-- The literal of a leaf. -/
def Atom.literal : Atom → String
  | .null => "None"
  | .bool b => if b then "True" else "False"
  | .number n => n.text
  | .text t => quoted t
  | .date d => d.literal
  | .dateTime t => t.literal
  | .bytes b => quotedBytes b

/-- The opening brace. -/
def openBrace : String := "\x7b"

/-- The closing brace. -/
def closeBrace : String := "\x7d"

namespace Value

mutual

/-- The literal of a value. -/
def literal : Value → String
  | .atom a => a.literal
  | .list items => "[" ++ ", ".intercalate (literalItems items) ++ "]"
  | .map entries => openBrace ++ ", ".intercalate (literalEntries entries) ++ closeBrace
  | .set members =>
    if members.isEmpty then "set()"
    else openBrace ++ ", ".intercalate (members.map Atom.literal) ++ closeBrace
  | .pair a b => "(" ++ literal a ++ ", " ++ literal b ++ ")"
termination_by structural v => v

/-- The literals of items. -/
def literalItems : List Value → List String
  | [] => []
  | v :: rest => literal v :: literalItems rest
termination_by structural vs => vs

/-- The literals of entries. -/
def literalEntries : List (Atom × Value) → List String
  | [] => []
  | (k, v) :: rest => (k.literal ++ ": " ++ literal v) :: literalEntries rest
termination_by structural es => es

end

/-- A value displayed by itself. -/
def display : Value → Text
  | .atom (.text t) => t
  | .atom (.date d) => d.iso
  | .atom (.dateTime t) => t.isoWith " "
  | v => v.literal

end Value

/-- Whether a leaf is no whole number with too many digits. -/
def Atom.isWritable : Atom → Bool
  | .number (.int n) => decide (n.natAbs < Nat.pow 10 numeralLimit)
  | _ => true

namespace Value

mutual

/-- Whether no whole number of a value has too many digits to be written. -/
def isWritable : Value → Bool
  | .atom a => a.isWritable
  | .list items => itemsWritable items
  | .map entries => entriesWritable entries
  | .set members => members.all Atom.isWritable
  | .pair a b => isWritable a && isWritable b
termination_by structural v => v

/-- Whether no whole number of items has too many digits. -/
def itemsWritable : List Value → Bool
  | [] => true
  | v :: rest => isWritable v && itemsWritable rest
termination_by structural vs => vs

/-- Whether no whole number of entries has too many digits. -/
def entriesWritable : List (Atom × Value) → Bool
  | [] => true
  | (k, v) :: rest => k.isWritable && isWritable v && entriesWritable rest
termination_by structural es => es

end

/-- A value displayed by itself, unless a whole number of it has too many digits. -/
def display? (v : Value) : Except Fault Text :=
  if v.isWritable then .ok v.display else .error .longInteger

end Value
end OfferRules

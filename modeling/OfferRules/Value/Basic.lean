import OfferRules.Number.Basic
import OfferRules.Text.CodePoint
import OfferRules.Time.Calendar

/-!
# Values of documents

Rule sets and player data are trees of values.  The leaves are *atoms*, which may also be the
keys of mappings; a mapping keeps its entries in the order in which their keys first appeared.
Data in JSON form has only text keys and no dates, bytes, sets or pairs; rule files can hold all
of them.

## Main definitions

* `Atom`, `Value` — leaves and trees.
* `Atom.same` — when two atoms are one key: numbers and booleans by their value.
* `Entries.get?`, `Entries.insert` — looking up and adding entries of a mapping.
* `Value.isTruthy` — whether a value counts as given.
-/

namespace OfferRules

/-- A leaf of a document, and a key of a mapping. -/
inductive Atom where
  /-- No value. -/
  | null
  /-- A truth value. -/
  | bool (b : Bool)
  /-- A number. -/
  | number (n : Number)
  /-- A text. -/
  | text (t : Text)
  /-- A date. -/
  | date (d : Date)
  /-- A clock reading. -/
  | dateTime (t : DateTime)
  /-- Bytes. -/
  | bytes (b : List UInt8)
deriving DecidableEq

/-- A value of a document. -/
inductive Value where
  /-- A leaf. -/
  | atom (a : Atom)
  /-- A list. -/
  | list (items : List Value)
  /-- A mapping, with its entries in order. -/
  | map (entries : List (Atom × Value))
  /-- A set of keys. -/
  | set (members : List Atom)
  /-- A pair. -/
  | pair (first second : Value)

/-- The entries of a mapping. -/
abbrev Entries := List (Atom × Value)

instance : Inhabited Value := ⟨.atom .null⟩

namespace Value

/-- The value that is none. -/
@[match_pattern] abbrev null : Value := .atom .null

/-- A truth value. -/
@[match_pattern] abbrev bool (b : Bool) : Value := .atom (.bool b)

/-- A number. -/
@[match_pattern] abbrev number (n : Number) : Value := .atom (.number n)

/-- A whole number. -/
@[match_pattern] abbrev int (n : Int) : Value := .atom (.number (.int n))

/-- A double. -/
@[match_pattern] abbrev double (d : Double) : Value := .atom (.number (.double d))

/-- A text. -/
@[match_pattern] abbrev text (t : Text) : Value := .atom (.text t)

/-- A mapping with text keys. -/
def record (fields : List (String × Value)) : Value :=
  .map (fields.map fun f => (.text f.1, f.2))

end Value

/-! ### Keys -/

/-- The number that an atom counts as: truth values count as zero and one. -/
def Atom.number? : Atom → Option Number
  | .bool b => some (.int (if b then 1 else 0))
  | .number n => some n
  | _ => none

/-- Whether two atoms are the same key: numbers and truth values by their exact value, of which
not-a-number counts as one, readings by the moment they show, all else by being identical. -/
def Atom.same (a b : Atom) : Bool :=
  match a.number?, b.number? with
  | some x, some y => x.place? == y.place?
  | none, none =>
    match a, b with
    | .dateTime s, .dateTime t => s.sameAs t
    | a, b => a == b
  | _, _ => false

namespace Entries

/-- The value under a key. -/
def get? (key : Atom) : Entries → Option Value
  | [] => none
  | (k, v) :: rest => if k.same key then some v else get? key rest

/-- The entries with a key set to a value: in its place if the key is there, else at the end. -/
def insert (key : Atom) (value : Value) : Entries → Entries
  | [] => [(key, value)]
  | (k, v) :: rest =>
    if k.same key then (k, value) :: rest else (k, v) :: insert key value rest

/-- The entries that a sequence of keys and values leaves: of equal keys the first place and the
last value. -/
def ofList (pairs : List (Atom × Value)) : Entries :=
  pairs.foldl (fun entries p => insert p.1 p.2 entries) []

/-- The entries of one mapping overridden and extended by those of another. -/
def override (base extra : Entries) : Entries :=
  extra.foldl (fun entries p => insert p.1 p.2 entries) base

end Entries

/-- The members that a sequence of keys leaves, each once, in order of first appearance. -/
def distinctAtoms (atoms : List Atom) : List Atom :=
  atoms.foldl (fun seen a => if seen.any (·.same a) then seen else seen ++ [a]) []

/-! ### Views -/

namespace Value

/-- The value under a text key, if the value is a mapping that has it. -/
def get? (v : Value) (key : Text) : Option Value :=
  match v with
  | .map entries => Entries.get? (.text key) entries
  | _ => none

/-- Whether a value is a mapping. -/
def isMap : Value → Bool
  | .map _ => true
  | _ => false

/-- Whether a value is a list. -/
def isList : Value → Bool
  | .list _ => true
  | _ => false

/-- Whether a value is none. -/
def isNull : Value → Bool
  | .atom .null => true
  | _ => false

/-- Whether a value counts as given: not none, false, zero or empty. -/
def isTruthy : Value → Bool
  | .atom .null => false
  | .atom (.bool b) => b
  | .atom (.number n) => !n.isZero
  | .atom (.text t) => t ≠ ""
  | .atom (.bytes b) => !b.isEmpty
  | .atom _ => true
  | .list items => !items.isEmpty
  | .map entries => !entries.isEmpty
  | .set members => !members.isEmpty
  | .pair _ _ => true

/-- The name of the kind of a value, as messages give it. -/
def kindName : Value → String
  | .atom .null => "NoneType"
  | .atom (.bool _) => "bool"
  | .atom (.number (.int _)) => "int"
  | .atom (.number (.double _)) => "float"
  | .atom (.text _) => "str"
  | .atom (.date _) => "date"
  | .atom (.dateTime _) => "datetime"
  | .atom (.bytes _) => "bytes"
  | .list _ => "list"
  | .map _ => "dict"
  | .set _ => "set"
  | .pair _ _ => "tuple"

end Value
end OfferRules

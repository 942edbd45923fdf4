import OfferRules.Value.Literal

/-!
# Writing JSON

A value as a JSON document on one line, with a blank after each comma and colon and every
code point beyond ASCII escaped as its UTF-16 units.  Values that JSON lacks are written as the
text by which they are displayed; a mapping whose keys are of a kind that JSON lacks has no such
form.

## Main definitions

* `utf16Units` — the UTF-16 code units of a character.
* `Json.escape` — a text between quotation marks.
* `Json.key` — a key of an object.
* `Json.write` — a value.
-/

namespace OfferRules

/-- The UTF-16 code units of a character. -/
def utf16Units (c : Char) : List Nat :=
  if c.toNat < 0x10000 then [c.toNat]
  else
    let n := c.toNat - 0x10000
    [0xd800 + n / 0x400, 0xdc00 + n % 0x400]

namespace Json

/-- One character of a text. -/
def escapeChar (c : Char) : List Char :=
  if c = quotationMark then ['\\', quotationMark]
  else if c = '\\' then ['\\', '\\']
  else if c = '\n' then ['\\', 'n']
  else if c = '\r' then ['\\', 'r']
  else if c = '\t' then ['\\', 't']
  else if c = '\x08' then ['\\', 'b']
  else if c = '\x0c' then ['\\', 'f']
  else if 0x20 ≤ c.toNat && c.toNat < 0x7f then [c]
  else (utf16Units c).flatMap fun u => '\\' :: 'u' :: hexDigits 4 u

/-- One code point of a text. -/
def escapePoint : CodePoint → List Char
  | .char c => escapeChar c
  | .surrogate s => '\\' :: 'u' :: hexDigits 4 s.code

/-- A text between quotation marks. -/
def escape (t : Text) : String :=
  String.ofList (quotationMark :: t.points.flatMap escapePoint ++ [quotationMark])

/-- The name by which a message calls a kind of key that JSON objects lack. -/
def keyKind : Atom → String
  | .date _ => "datetime.date"
  | .dateTime _ => "datetime.datetime"
  | a => (Value.atom a).kindName

/-- A number. -/
def number : Number → Except Fault String
  | .int n => intText n
  | .double d => .ok (d.render .json)

/-- A key of an object, before it is put between quotation marks. -/
def key : Atom → Except Fault Text
  | .null => .ok "null"
  | .bool b => .ok (if b then "true" else "false" : String)
  | .number n => (number n).map fun s => s
  | .text t => .ok t
  | a => .error (.badKey (keyKind a))

/-- A leaf. -/
def atom : Atom → Except Fault String
  | .null => .ok "null"
  | .bool b => .ok (if b then "true" else "false")
  | .number n => number n
  | a => .ok (escape (Value.atom a).display)

mutual

/-- A value as a JSON document. -/
def write : Value → Except Fault String
  | .atom a => atom a
  | .list items => (writeItems items).map fun ts => "[" ++ ", ".intercalate ts ++ "]"
  | .map entries =>
    (writeEntries entries).map fun ts => openBrace ++ ", ".intercalate ts ++ closeBrace
  | .set members => (Value.set members).display?.map escape
  | .pair a b =>
    match write a, write b with
    | .ok s, .ok t => .ok ("[" ++ s ++ ", " ++ t ++ "]")
    | .error e, _ => .error e
    | _, .error e => .error e
termination_by structural v => v

/-- The items of an array. -/
def writeItems : List Value → Except Fault (List String)
  | [] => .ok []
  | v :: rest =>
    match write v, writeItems rest with
    | .ok s, .ok ss => .ok (s :: ss)
    | .error e, _ => .error e
    | _, .error e => .error e
termination_by structural vs => vs

/-- The members of an object. -/
def writeEntries : List (Atom × Value) → Except Fault (List String)
  | [] => .ok []
  | (k, v) :: rest =>
    match key k, write v, writeEntries rest with
    | .ok s, .ok t, .ok ss => .ok ((escape s ++ ": " ++ t) :: ss)
    | .error e, _, _ => .error e
    | _, .error e, _ => .error e
    | _, _, .error e => .error e
termination_by structural es => es

end

end Json
end OfferRules

import OfferRules.Json.Writer

/-!
# JSON in answers

An answer carries a JSON document without blanks, in which characters beyond ASCII stand as they
are.  It is sent in UTF-8, so a document with a surrogate cannot be sent.

## Main definitions

* `Json.compactText` — a text between quotation marks.
* `Json.compact` — the document of a value.
-/

namespace OfferRules.Json

/-- One character of a text: control characters, quotation marks and backslashes are escaped. -/
def compactChar (c : Char) : List Char :=
  if c = quotationMark || c = '\\' || c.toNat < 0x20 then escapeChar c else [c]

/-- The characters of a string with their escapes. -/
def compactString (s : String) : String := String.ofList (s.toList.flatMap compactChar)

/-- A text with its escapes. -/
def compactBody : Text → Text
  | .whole s => .whole (compactString s)
  | .torn before s after => .torn (compactString before) s (compactBody after)

/-- A text between quotation marks. -/
def compactText (t : Text) : Text :=
  String.singleton quotationMark ++ compactBody t ++ String.singleton quotationMark

/-- A leaf. -/
def compactAtom : Atom → Text
  | .null => "null"
  | .bool b => if b then "true" else "false"
  | .number (.int n) => toString n
  | .number (.double d) => d.render .json
  | a => compactText (Value.atom a).display

/-- A key of an object. -/
def compactKey (a : Atom) : Text :=
  match key a with
  | .ok t => compactText t
  | .error _ => compactText (Value.atom a).display

mutual

/-- The document of a value. -/
def compact : Value → Text
  | .atom a => compactAtom a
  | .list items => "[" ++ Text.joined "," (compactItems items) ++ "]"
  | .map entries => openBrace ++ Text.joined "," (compactEntries entries) ++ closeBrace
  | .set members => compactText (Value.set members).display
  | .pair a b => "[" ++ compact a ++ "," ++ compact b ++ "]"
termination_by structural v => v

/-- The items of an array. -/
def compactItems : List Value → List Text
  | [] => []
  | v :: rest => compact v :: compactItems rest
termination_by structural vs => vs

/-- The members of an object. -/
def compactEntries : List (Atom × Value) → List Text
  | [] => []
  | (k, v) :: rest => (compactKey k ++ ":" ++ compact v) :: compactEntries rest
termination_by structural es => es

end

end OfferRules.Json

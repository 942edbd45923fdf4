import OfferRules.Text.LineEnd
import OfferRules.Yaml.Node.Reader
import OfferRules.Yaml.Node.Value

/-!
# Documents

A text holds at most one document; one that holds none stands for no value.  A file is a text in
UTF-8 whose line ends may be of any kind.

## Main definitions

* `Yaml.read` — the value of a text.
* `Yaml.readFile` — the value of the bytes of a file.
-/

namespace OfferRules.Yaml

/-- The value of the document of a text, with some room for its collections. -/
def read (room : Nat) (cs : List Char) : Except Problem Value :=
  if cs.all isAllowed then do
    match ← document room (tokens cs) with
    | some n => n.value
    | none => return .null
  else .error (.defect .character)

/-- The value of the bytes of a file, with some room for its collections. -/
def readFile (room : Nat) (bytes : List UInt8) : Except Problem Value :=
  match Utf8.decodePieces bytes with
  | .ok cs => read room (plainLineEnds cs)
  | .error e => .error (.fault (.badText e))

end OfferRules.Yaml

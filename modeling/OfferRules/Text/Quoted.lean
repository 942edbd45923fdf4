import OfferRules.Text.CodePoint
import OfferRules.Text.Printable

/-!
# Quoted texts

A quoted text stands between apostrophes, or between quotation marks when it holds an
apostrophe and no quotation mark.  The quote, the backslash and code points that are not printable
characters are written as escapes.

## Main definitions

* `hexDigits` — a number in hexadecimal with a least number of digits.
* `quoted` — a text in quotes.
* `quotedBytes` — bytes in quotes, the ASCII ones as characters.
-/

namespace OfferRules

/-- A number in lower-case hexadecimal, padded with zeros to a width. -/
def hexDigits (width n : Nat) : List Char :=
  let digits := Nat.toDigits 16 n
  List.replicate (width - digits.length) '0' ++ digits

/-- The apostrophe. -/
def apostrophe : Char := Char.ofNat 0x27

/-- The quotation mark. -/
def quotationMark : Char := Char.ofNat 0x22

/-- The quote around a text: an apostrophe unless the text holds one and no quotation mark. -/
def quoteFor (ps : List CodePoint) : Char :=
  if ps.contains apostrophe && !ps.contains quotationMark then quotationMark else apostrophe

/-- The escape of a code point by its size. -/
def escapeCode (n : Nat) : List Char :=
  if n < 0x100 then '\\' :: 'x' :: hexDigits 2 n
  else if n < 0x10000 then '\\' :: 'u' :: hexDigits 4 n
  else '\\' :: 'U' :: hexDigits 8 n

/-- One character of a quoted text. -/
def quotedChar (quote c : Char) : List Char :=
  if c = quote || c = '\\' then ['\\', c]
  else if c = '\t' then ['\\', 't']
  else if c = '\n' then ['\\', 'n']
  else if c = '\r' then ['\\', 'r']
  else if isPrintable c then [c]
  else escapeCode c.toNat

/-- One code point of a quoted text. -/
def quotedPoint (quote : Char) : CodePoint → List Char
  | .char c => quotedChar quote c
  | .surrogate s => escapeCode s.code

/-- A text in quotes. -/
def quoted (t : Text) : String :=
  let quote := quoteFor t.points
  String.ofList (quote :: t.points.flatMap (quotedPoint quote) ++ [quote])

/-- One byte of quoted bytes. -/
def quotedByte (quote : Char) (b : UInt8) : List Char :=
  if b.toNat < 0x7f then quotedChar quote (Char.ofNat b.toNat) else escapeCode b.toNat

/-- Bytes in quotes, marked by a `b`. -/
def quotedBytes (bytes : List UInt8) : String :=
  let quote := quoteFor (bytes.map fun b => .char (Char.ofNat b.toNat))
  String.ofList ('b' :: quote :: bytes.flatMap (quotedByte quote) ++ [quote])

end OfferRules

import OfferRules.Fault
import OfferRules.Text.Blank
import OfferRules.Text.Digit

/-!
# Whole numbers in texts

A whole number is written in digits of a base, with an optional sign, and blanks around it.  A
single underscore may stand between two digits.  In bases sixteen, eight and two the digits may
follow the mark of the base.  Digits of all scripts count as decimal digits.

## Main definitions

* `digitIn?` — the value of a digit of a base.
* `asciiForm` — a text with blanks and digits of other scripts brought to ASCII.
* `parseWhole` — reading a whole number.
-/

namespace OfferRules

/-- The value of an ASCII digit of a base of at most thirty-six. -/
def digitIn? (base : Nat) (c : Char) : Option Nat :=
  let value :=
    if '0' ≤ c && c ≤ '9' then some (c.toNat - 48)
    else if 'a' ≤ c && c ≤ 'z' then some (c.toNat - 87)
    else if 'A' ≤ c && c ≤ 'Z' then some (c.toNat - 55)
    else none
  value.filter (· < base)

/-- A blank or a digit brought to ASCII, and a question mark for everything else beyond it. -/
def asciiPoint : CodePoint → Char
  | .char c =>
    if c.toNat < 127 then c
    else if isBlank c then ' '
    else match digitValue? c with
      | some d => Char.ofNat (48 + d)
      | none => '?'
  | .surrogate _ => '?'

/-- A text brought to ASCII.  A text in ASCII stays as it is. -/
def asciiForm (t : Text) : List Char :=
  match t with
  | .whole s =>
    if s.toList.all (·.toNat < 128) then s.toList else t.points.map asciiPoint
  | .torn _ _ _ => t.points.map asciiPoint

/-- Whether a character is a blank of ASCII that may stand around a numeral. -/
def isAsciiBlank (c : Char) : Bool := (0x09 ≤ c.toNat && c.toNat ≤ 0x0d) || c == ' '

/-- A text without the ASCII blanks at its two ends. -/
def stripAscii (cs : List Char) : List Char :=
  ((cs.dropWhile isAsciiBlank).reverse.dropWhile isAsciiBlank).reverse

/-- The number that further digits make of the one before them; an underscore must stand before
a digit. -/
def moreDigits? (base value : Nat) : List Char → Option Nat
  | [] => some value
  | '_' :: c :: rest => (digitIn? base c).bind fun d => moreDigits? base (base * value + d) rest
  | c :: rest => (digitIn? base c).bind fun d => moreDigits? base (base * value + d) rest

/-- The number that digits of a base write, the first of them a digit. -/
def digits? (base : Nat) : List Char → Option Nat
  | [] => none
  | c :: rest => (digitIn? base c).bind fun d => moreDigits? base d rest

/-- The letter that marks a base after a zero. -/
def baseMark? : Nat → Option Char
  | 16 => some 'x'
  | 8 => some 'o'
  | 2 => some 'b'
  | _ => none

/-- The digits after the mark of a base, if it is there; an underscore may follow the mark. -/
def dropBaseMark (base : Nat) : List Char → List Char
  | '0' :: c :: rest =>
    if (baseMark? base).any fun m => m == c || m.toUpper == c then
      match rest with
      | '_' :: more => more
      | _ => rest
    else '0' :: c :: rest
  | cs => cs

/-- Reads a whole number in a base.  There must not be too many decimal digits, also where something
else follows them. -/
def parseWhole (base : Nat) (t : Text) : Except Fault Int :=
  let body := stripAscii (asciiForm t)
  let (negative, digits) := match body with
    | '-' :: rest => (true, rest)
    | '+' :: rest => (false, rest)
    | rest => (false, rest)
  let leading := digits.takeWhile fun c => (digitIn? base c).isSome || c == '_'
  let count := leading.countP (· ≠ '_')
  if base = 10 && numeralLimit < count then .error (.longNumeral count)
  else match digits? base (dropBaseMark base digits) with
    | none => .error (.badInteger base t)
    | some n => .ok (if negative then -n else n)

end OfferRules

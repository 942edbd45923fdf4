import OfferRules.Number.Double

/-!
# Decimals and doubles

Reading a decimal gives the nearest double; writing a double gives the shortest decimal that
reads back as it, and of several the nearest one.

## Main definitions

* `Decimal` — a natural number times a power of ten; `Decimal.magnitude?` the nearest magnitude.
* `Decimal.parse?` — the text form `12.5e-3`, without a sign.
* `Magnitude.shortest` — the fewest digits that read back.
* `Double.Style`, `Double.render` — how a double is laid out as text.
* `Double.roundTo`, `Double.toFixed` — a given number of decimal places.
-/

namespace OfferRules

/-! ### Digits -/

/-- Whether a character is one of the ten ASCII digits. -/
def isAsciiDigit (c : Char) : Bool := '0' ≤ c && c ≤ '9'

/-- The number that a list of ASCII digits stands for. -/
def natOfDigits (cs : List Char) : Nat :=
  cs.foldl (fun n c => 10 * n + (c.toNat - 48)) 0

/-- How many decimal digits a number has; zero has one. -/
def decimalLength (n : Nat) : Nat := (Nat.toDigits 10 n).length

/-! ### Decimals -/

/-- The decimal `digits * 10 ^ exponent`. -/
structure Decimal where
  /-- The significant digits as one number. -/
  digits : Nat
  /-- The power of ten they are scaled by. -/
  exponent : Int
deriving DecidableEq, Repr

namespace Decimal

/-- The nearest magnitude, ties to even; none when it is `2 ^ 1024` or more.  Decimals far
outside the range of doubles are settled by their order of magnitude alone. -/
def magnitude? (d : Decimal) : Option Magnitude :=
  let top := d.exponent + decimalLength d.digits
  if d.digits = 0 then some .zero
  else if 310 < top then none
  else if top < -325 then some .zero
  else if 0 ≤ d.exponent then
    Magnitude.nearest? (d.digits * Nat.pow 10 d.exponent.toNat * Magnitude.perOne) 1
  else
    Magnitude.nearest? (d.digits * Magnitude.perOne) (Nat.pow 10 (-d.exponent).toNat)

/-- The nearest double, with the given sign. -/
def toDouble (negative : Bool) (d : Decimal) : Double :=
  match d.magnitude? with
  | some size => .finite negative size
  | none => .infinite negative

/-- The exponent part of a decimal text: nothing, or `e`, an optional sign and digits. -/
def parseExponent? : List Char → Option Int
  | [] => some 0
  | e :: rest =>
    if e = 'e' || e = 'E' then
      let (negative, digits) := match rest with
        | '-' :: r => (true, r)
        | '+' :: r => (false, r)
        | r => (false, r)
      if digits.isEmpty || !digits.all isAsciiDigit then none
      else
        let n : Int := natOfDigits digits
        some (if negative then -n else n)
    else none

/-- Reads an unsigned decimal text whole: digits with at most one point among, before or after
them, then an optional exponent. -/
def parse? (cs : List Char) : Option Decimal :=
  let (whole, rest) := cs.span isAsciiDigit
  let (fraction, rest) := match rest with
    | '.' :: r => r.span isAsciiDigit
    | r => ([], r)
  if whole.isEmpty && fraction.isEmpty then none
  else
    (parseExponent? rest).map fun e =>
      { digits := natOfDigits (whole ++ fraction), exponent := e - fraction.length }

/-- Drops trailing zeros of the digits, so that no shorter digits give the same decimal. -/
def trim (d : Decimal) : Decimal :=
  if d.digits ≠ 0 ∧ d.digits % 10 = 0 then
    trim { digits := d.digits / 10, exponent := d.exponent + 1 }
  else d
termination_by d.digits
decreasing_by omega

end Decimal

/-! ### The shortest decimal that reads back -/

namespace Magnitude

/-- The power of ten of the leading decimal digit of a positive magnitude. -/
def leadingExponent (x : Magnitude) : Int :=
  (decimalLength (x.units * Nat.pow 10 400 / perOne) : Int) - 401

/-- The quotient that `x / 10 ^ e` is. -/
def scaled (x : Magnitude) (e : Int) : Nat × Nat :=
  if 0 ≤ e then (x.units, perOne * Nat.pow 10 e.toNat)
  else (x.units * Nat.pow 10 (-e).toNat, perOne)

/-- The nearer of the two decimals around `x` with the last digit at a power of ten that read back
as `x`, if one does; of two equally near the one with an even last digit. -/
def nearer? (x : Magnitude) (e : Int) : Option Decimal :=
  let (num, den) := x.scaled e
  let below : Decimal := ⟨num / den, e⟩
  let above : Decimal := ⟨num / den + 1, e⟩
  let readsBack (d : Decimal) : Bool := d.magnitude? = some x
  match readsBack below, readsBack above with
  | true, true => some ⟨roundHalfEven num den, e⟩
  | true, false => some below
  | false, true => some above
  | false, false => none

/-- The nearer of the two decimals with `count` digits around `x` that read back as `x`, if one
does. -/
def candidate? (x : Magnitude) (count : Nat) : Option Decimal :=
  x.nearer? (x.leadingExponent + 1 - count)

/-- The decimal with the fewest digits that reads back as a positive magnitude: seventeen
always suffice. -/
def shortest (x : Magnitude) : Decimal :=
  (((List.range 17).findSome? fun i => x.candidate? (i + 1)).getD ⟨0, 0⟩).trim

end Magnitude

/-! ### Layout -/

/-- How doubles are written. -/
structure Double.Style where
  /-- The least leading exponent written positionally. -/
  positionalFrom : Int := -4
  /-- The least leading exponent above it that takes an exponent form again. -/
  positionalBelow : Int := 16
  /-- The text of not-a-number. -/
  nan : String
  /-- The text of positive infinity. -/
  infinity : String
  /-- The text of negative infinity. -/
  minusInfinity : String

/-- A number padded with zeros on the left to a given width. -/
def padNat (width n : Nat) : String :=
  let digits := Nat.toDigits 10 n
  String.ofList (List.replicate (width - digits.length) '0' ++ digits)

namespace Double

/-- A positive decimal in a style: positional with at least one digit on each side of the
point, or a mantissa and a signed exponent of at least two digits. -/
def Style.layout (style : Style) (d : Decimal) : String :=
  let digits := Nat.toDigits 10 d.digits
  let point : Int := digits.length + d.exponent
  let lead := point - 1
  if style.positionalFrom ≤ lead ∧ lead < style.positionalBelow then
    if point ≤ 0 then
      "0." ++ String.ofList (List.replicate (-point).toNat '0' ++ digits)
    else if d.exponent ≥ 0 then
      String.ofList (digits ++ List.replicate d.exponent.toNat '0') ++ ".0"
    else
      String.ofList (digits.take point.toNat) ++ "." ++ String.ofList (digits.drop point.toNat)
  else
    let mantissa := match digits with
      | a :: b :: rest => String.ofList (a :: '.' :: b :: rest)
      | short => String.ofList short
    mantissa ++ (if lead < 0 then "e-" else "e+") ++ padNat 2 lead.natAbs

/-- The shortest text of a double in a style. -/
def render (style : Style) : Double → String
  | .nan => style.nan
  | .infinite negative => if negative then style.minusInfinity else style.infinity
  | .finite negative size =>
    (if negative then "-" else "") ++
      if size.units = 0 then "0.0" else style.layout size.shortest

/-- The plain style, used wherever a document's number becomes text. -/
def Style.plain : Style := { nan := "nan", infinity := "inf", minusInfinity := "-inf" }

/-- The style of documents in JSON form. -/
def Style.json : Style := { nan := "NaN", infinity := "Infinity", minusInfinity := "-Infinity" }

/-- The plain text of a double. -/
def text (d : Double) : String := d.render .plain

/-- The nearest double with at most `places` decimal places, ties going to the even digit. -/
def roundTo (places : Nat) : Double → Double
  | .finite negative size =>
    ofUnits negative
      (roundHalfEven (size.units * Nat.pow 10 places) Magnitude.perOne * Magnitude.perOne)
      (Nat.pow 10 places)
  | d => d

/-- The text with exactly `places` decimal places (at least one), ties going to the even digit. -/
def toFixed (places : Nat) : Double → String
  | .finite negative size =>
    let n := roundHalfEven (size.units * Nat.pow 10 places) Magnitude.perOne
    (if negative then "-" else "") ++ toString (n / Nat.pow 10 places) ++ "." ++
      padNat places (n % Nat.pow 10 places)
  | d => d.text

end Double

/-! ### Reading numbers from text -/

namespace Double

/-- A sign in front of a text, and the text after it. -/
def splitSign : List Char → Bool × List Char
  | '-' :: r => (true, r)
  | '+' :: r => (false, r)
  | r => (false, r)

/-- Reads a signed decimal, or the name of an infinity or of not-a-number in any case. -/
def parse? (cs : List Char) : Option Double :=
  let (negative, body) := splitSign cs
  let name := body.map Char.toLower
  if name = "inf".toList || name = "infinity".toList then some (.infinite negative)
  else if name = "nan".toList then some .nan
  else (Decimal.parse? body).map (Decimal.toDouble negative)

end Double
end OfferRules

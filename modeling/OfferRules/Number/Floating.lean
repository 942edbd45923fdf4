import OfferRules.Number.Whole

/-!
# Doubles in texts

A double is written as a signed decimal, or as the name of an infinity or of not-a-number, with
blanks around it.  A single underscore may stand between two digits, and digits of all scripts
count as decimal digits.

## Main definitions

* `dropInnerUnderscores?` — a text without the underscores between its digits.
* `parseDouble` — reading a double.
-/

namespace OfferRules

/-- A text without its underscores, if each of them stands between two digits; the digit before
the text is given by whether there is one. -/
def dropInnerUnderscores? (afterDigit : Bool) : List Char → Option (List Char)
  | [] => some []
  | '_' :: c :: rest =>
    if afterDigit && isAsciiDigit c then
      (dropInnerUnderscores? true rest).map (c :: ·)
    else none
  | c :: rest =>
    if c = '_' then none
    else (dropInnerUnderscores? (isAsciiDigit c) rest).map (c :: ·)

/-- Reads a double. -/
def parseDouble (t : Text) : Except Fault Double :=
  match (dropInnerUnderscores? false (stripAscii (asciiForm t))).bind Double.parse? with
  | some d => .ok d
  | none => .error (.badDouble t)

end OfferRules

import OfferRules.Yaml.Timestamp

/-!
# Tags

A tag says which kind of value some content stands for.  A plain scalar without a tag gets the
one that its form tells: a truth value, a number, a date or a reading, none, or else a text.

## Main definitions

* `Yaml.Tag`, `Yaml.Tag.named` — the tags, and the one of a full name.
* `Yaml.ScalarForm` — the forms of plain scalars.
* `Yaml.Tag.ofPlain` — the tag of a plain scalar.
-/

namespace OfferRules.Yaml

/-- A tag. -/
inductive Tag where
  /-- No value. -/
  | null
  /-- A truth value. -/
  | bool
  /-- A whole number. -/
  | int
  /-- A double. -/
  | float
  /-- A text. -/
  | str
  /-- Bytes. -/
  | binary
  /-- A date or a reading. -/
  | timestamp
  /-- A list. -/
  | seq
  /-- A mapping. -/
  | map
  /-- A set. -/
  | set
  /-- A list of single entries of mappings. -/
  | omap
  /-- The same, under another name. -/
  | pairs
  /-- The key under which mappings are merged into this one. -/
  | merge
  /-- The key under which a mapping has a scalar in its place. -/
  | value
  /-- A tag without a meaning. -/
  | other
deriving DecidableEq, Repr

/-- What the names of tags start with. -/
def tagFamily : String := "tag:yaml.org,2002:"

/-- The tags with a meaning, by the ends of their names. -/
def tagNames : List (String × Tag) :=
  [("null", .null), ("bool", .bool), ("int", .int), ("float", .float), ("str", .str),
    ("binary", .binary), ("timestamp", .timestamp), ("seq", .seq), ("map", .map), ("set", .set),
    ("omap", .omap), ("pairs", .pairs), ("merge", .merge), ("value", .value)]

/-- The tag of a full name. -/
def Tag.named (name : String) : Tag :=
  ((tagNames.find? fun p => tagFamily ++ p.1 == name).map (·.2)).getD .other

/-! ### The forms of plain scalars -/

namespace ScalarForm

/-- The words for truth values, each in three cases. -/
def boolWords : List String :=
  ["yes", "Yes", "YES", "no", "No", "NO", "true", "True", "TRUE", "false", "False", "FALSE",
    "on", "On", "ON", "off", "Off", "OFF"]

/-- The words for no value. -/
def nullWords : List String := ["~", "null", "Null", "NULL", ""]

/-- A text without a sign at its front. -/
def dropSign : List Char → List Char
  | '+' :: rest => rest
  | '-' :: rest => rest
  | cs => cs

/-- Whether a character is a digit or an underscore. -/
def isDigitOrMark (c : Char) : Bool := isAsciiDigit c || c == '_'

/-- Whether a text is some characters of a class, at least one. -/
def isSome (p : Char → Bool) (cs : List Char) : Bool := !cs.isEmpty && cs.all p

/-- Whether a text is a digit below six and a digit, or a digit. -/
def isSixtieth : List Char → Bool
  | [a] => isAsciiDigit a
  | [a, b] => '0' ≤ a && a ≤ '5' && isAsciiDigit b
  | _ => false

/-- A sequence cut at each mark. -/
def cutAt {α : Type} [DecidableEq α] (mark : α) (as : List α) : List (List α) :=
  as.foldr (fun a parts => match parts with
    | part :: rest => if a = mark then [] :: part :: rest else (a :: part) :: rest
    | [] => []) [[]]

/-- Whether a text is a number in steps of sixty: one that starts with a digit, and at least one
part below sixty after it. -/
def isInSixties (cs : List Char) : Bool :=
  match cutAt ':' cs with
  | (d :: ds) :: part :: parts =>
    isAsciiDigit d && ds.all isDigitOrMark && (part :: parts).all isSixtieth
  | _ => false

/-- Whether a text is a whole number: in base two, eight, sixteen or ten, or in steps of sixty. -/
def isInt (cs : List Char) : Bool :=
  match dropSign cs with
  | '0' :: 'b' :: digits => isSome (fun c => c == '0' || c == '1' || c == '_') digits
  | '0' :: 'x' :: digits => isSome (fun c => (digitIn? 16 c).isSome || c == '_') digits
  | ['0'] => true
  | '0' :: digits => isSome (fun c => ('0' ≤ c && c ≤ '7') || c == '_') digits
  | d :: digits =>
    isAsciiDigit d && (digits.all isDigitOrMark || isInSixties (d :: digits))
  | [] => false

/-- Whether a text is nothing, or an exponent with its sign. -/
def isExponent : List Char → Bool
  | [] => true
  | e :: sign :: digits =>
    (e == 'e' || e == 'E') && (sign == '+' || sign == '-') && isSome isAsciiDigit digits
  | _ => false

/-- Whether a text is digits and underscores with an exponent after them if there is one. -/
def isFraction (cs : List Char) : Bool := isExponent (cs.dropWhile isDigitOrMark)

/-- Whether a text is a double: a decimal with a point, a number in steps of sixty with one, or
the name of an infinity or of not-a-number. -/
def isFloat (cs : List Char) : Bool :=
  let body := dropSign cs
  let whole := body.takeWhile (· != '.')
  match body.drop whole.length with
  | _ :: fraction =>
    match whole with
    | [] =>
      let name := String.ofList fraction
      ["inf", "Inf", "INF"].contains name ||
        (body == cs && (["nan", "NaN", "NAN"].contains name ||
          (fraction.head?.any isAsciiDigit && isFraction fraction)))
    | d :: digits =>
      (isAsciiDigit d && digits.all isDigitOrMark && isFraction fraction) ||
        (isInSixties whole && fraction.all isDigitOrMark)
  | [] => false

/-- Whether a text is a date with a month and a day of two digits, or any date with a time. -/
def isTimestamp (cs : List Char) : Bool :=
  match Stamp.ofText? cs with
  | some stamp => stamp.isPadded || stamp.time.isSome
  | none => false

end ScalarForm

/-- The tag of a string by its form; a line end after it does not count. -/
def Tag.ofString (s : String) : Tag :=
  let cs := s.toList
  let body := if cs.getLast? = some '\n' && cs.length ≠ 1 then cs.dropLast else cs
  let word := String.ofList body
  if ScalarForm.boolWords.contains word then .bool
  else if ScalarForm.isFloat body then .float
  else if ScalarForm.isInt body then .int
  else if word = "<<" then .merge
  else if ScalarForm.nullWords.contains word then .null
  else if ScalarForm.isTimestamp body then .timestamp
  else if word = "=" then .value
  else if ["!", "&", "*"].contains word then .other
  else .str

/-- The tag of a plain scalar by its form; a torn text has none of the forms. -/
def Tag.ofPlain : Text → Tag
  | .whole s => ofString s
  | .torn _ _ _ => .str

end OfferRules.Yaml

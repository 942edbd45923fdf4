import OfferRules.Number.Whole
import OfferRules.Text.Utf8
import OfferRules.Validation.Issue
import OfferRules.Value.Literal

/-!
# Reading scalars

How the values of a document are read as texts, numbers and moments.  Reading is generous: bytes
are read as the text they encode, texts as the numbers they write, truth values as zero and one,
and numbers, where that is asked for, as their texts; a whole number with too many digits to have
one is a fault.

## Main definitions

* `readText`, `readString`, `readInteger`, `readDouble`, `readNumber`, `readMoment` — the readings.
* `Field.required`, `Field.optional` — the entries of a mapping, by the first name that is there.
-/

namespace OfferRules

/-! ### Texts -/

/-- The text of a number. -/
def textOfNumber (n : Number) : Checked Text :=
  if (Atom.number n).isWritable then .ok n.text else .fail (.fault .longInteger)

/-- Reads a text; numbers are read as their texts if that is asked for. -/
def readText (numbers : Bool) : Value → Checked Text
  | .text t => .ok t
  | .atom (.bytes b) =>
    match Utf8.decode b with
    | .ok cs => .ok (String.ofList cs)
    | .error _ => .fail .textEncoding
  | .number n => if numbers then textOfNumber n else .fail .notText
  | _ => .fail .notText

/-- What is read in a text, which must not be torn. -/
def inString {α : Type} (read : String → Checked α) : Text → Checked α
  | .whole s => read s
  | .torn _ _ _ => .fail .textEncoding

/-- Reads a text that is not torn. -/
def readString (v : Value) : Checked String :=
  match readText false v with
  | .ok t => inString .ok t
  | .error e => .error e

/-! ### Whole numbers -/

/-- A decimal text without zeros after its point, where there is nothing else after it. -/
def dropZeroFraction (cs : List Char) : List Char :=
  let whole := cs.takeWhile (· != '.')
  match cs.drop whole.length with
  | _ :: zeros => if !zeros.isEmpty && zeros.all (· == '0') then whole else cs
  | [] => cs

/-- A numeral without the zeros in front of it, and without the underscores among them: the last
zero stays where nothing or a point follows.  A minus may follow zeros. -/
def dropZeros? : List Char → Option (List Char)
  | '0' :: rest => after '0' rest
  | c :: rest => if isAsciiDigit c || c = '-' then some (c :: rest) else none
  | [] => none
where
  /-- The same, after a zero or an underscore. -/
  after (last : Char) : List Char → Option (List Char)
    | [] => some [last]
    | c :: rest =>
      if c = '0' || c = '_' then after c rest
      else if c = '.' then some (last :: c :: rest)
      else if isAsciiDigit c || c = '-' then some (c :: rest)
      else none

/-- A text without single underscores between other characters, if it has any. -/
def dropUnderscores? (cs : List Char) : Option (List Char) :=
  let rec single : List Char → Bool
    | '_' :: '_' :: _ => false
    | _ :: rest => single rest
    | [] => true
  if cs.contains '_' && cs.head? != some '_' && cs.getLast? != some '_' && single cs then
    some (cs.filter (· != '_'))
  else none

/-- A numeral without a plus, and without the zeros and underscores that do not count. -/
def plainNumeral? (cs : List Char) : Option (List Char) :=
  let body := match cs with
    | '+' :: '-' :: _ => []
    | '+' :: rest => rest
    | _ => cs
  (dropZeros? body).map fun cs =>
    let cs := dropZeroFraction cs
    (dropUnderscores? cs).getD cs

/-- The whole number that a text writes in digits, with single underscores between them. -/
def integerInText (cs : List Char) : Checked Int :=
  match plainNumeral? (trimSpaces cs) with
  | none => .fail .integerText
  | some numeral =>
    let (negative, digits) := Double.splitSign numeral
    if numeralLimit < (digits.takeWhile isAsciiDigit).length then .fail .integerSize
    else if isPlain digits then
      .ok (if negative then -(natOfDigits digits : Int) else natOfDigits digits)
    else .fail .integerText
where
  /-- Whether a text is digits without a zero in front of others. -/
  isPlain (digits : List Char) : Bool :=
    !digits.isEmpty && digits.all isAsciiDigit && (digits.head? != some '0' || digits.length == 1)

/-- The bounds of the doubles that are read as whole numbers. -/
def integerBound : Int := 9223372036854775808

/-- The whole number that a double is. -/
def integerOfDouble (d : Double) : Checked Int :=
  if !d.isFinite then .fail .notFinite
  else match d.toInt? with
    | none => .fail .fractional
    | some n => if -integerBound < n && n < integerBound then .ok n else .fail .integerSize

/-- Reads a whole number. -/
def readInteger : Value → Checked Int
  | .bool b => .ok (if b then 1 else 0)
  | .int n => .ok n
  | .double d => integerOfDouble d
  | .text t => inString (fun s => integerInText s.toList) t
  | .atom (.bytes b) =>
    match Utf8.decode b with
    | .ok cs => integerInText cs
    | .error _ => .fail .integerText
  | _ => .fail .notInteger

/-! ### Doubles -/

/-- The double that a text writes. -/
def doubleInText (cs : List Char) : Checked Double :=
  match (Double.parse? (trimSpaces cs)).or ((dropUnderscores? cs).bind Double.parse?) with
  | some d => .ok d
  | none => .fail .numberText

/-- The double that is nearest to a whole number. -/
def doubleOfInteger (n : Int) : Checked Double := (Double.ofInt? n).elim (.fail .notNumber) .ok

/-- Reads a double. -/
def readDouble : Value → Checked Double
  | .bool b => .ok (if b then .one else .zero)
  | .int n => doubleOfInteger n
  | .double d => .ok d
  | .text t => inString (fun s => doubleInText s.toList) t
  | .atom (.bytes b) =>
    match Utf8.decode b with
    | .ok cs => doubleInText cs
    | .error _ => .fail .numberText
  | _ => .fail .notNumber

/-- Reads a number of either kind: numbers as they are, all else as a whole number if it can be
read as one, else as a double.  What is neither has the issues of both. -/
def readNumber : Value → Checked Number
  | .number n => .ok n
  | v =>
    match readInteger v, readDouble v with
    | .ok n, _ => .ok (.int n)
    | .error _, .ok d => .ok (.double d)
    | .error e, .error e' =>
      Checked.ap (Checked.under (.key "int") (.error e : Checked (Unit → Number)))
        (Checked.under (.key "float") (.error e'))

/-! ### Moments -/

/-- The moment of a text, with the issue of one that has none. -/
def momentInText (bytes : List UInt8) : Checked DateTime :=
  match Moment.ofText bytes with
  | .ok t => .ok t
  | .error (.form p) => .fail (.momentText p)
  | .error (.value p) => .fail (.moment p)

/-- A moment, with the issue of a count that has none. -/
def momentOfCount (r : Except MomentProblem DateTime) : Checked DateTime :=
  match r with
  | .ok t => .ok t
  | .error p => .fail (.moment p)

/-- Reads a moment. -/
def readMoment : Value → Checked DateTime
  | .atom (.dateTime t) => .ok t
  | .atom (.date d) => .ok ⟨d, 0, 0, 0, 0, none⟩
  | .text t => inString (fun s => momentInText s.toUTF8.toList) t
  | .atom (.bytes b) => momentInText b
  | .int n =>
    if n.natAbs < integerBound.natAbs then momentOfCount (Timestamp.ofCount n 0)
    else match Double.ofInt? n with
      | some d => momentOfCount (Timestamp.ofDouble d)
      | none => .fail .notMoment
  | .double d => momentOfCount (Timestamp.ofDouble d)
  | _ => .fail .notMoment

/-! ### Containers -/

/-- Reads a list; sets and pairs count as lists. -/
def readList {α : Type} (read : Value → Checked α) : Value → Checked (List α)
  | .list vs => Checked.items read vs
  | .set as => Checked.items read (as.map .atom)
  | .pair a b => Checked.items read [a, b]
  | _ => .fail .notList

/-- Reads a value that may be null. -/
def readNullable {α : Type} (read : Value → Checked α) (v : Value) : Checked (Option α) :=
  if v.isNull then .ok none else (read v).map some

namespace Field

variable {α : Type}

/-- The first of some names under which a mapping has an entry, with the entry. -/
def find? (names : List Text) (entries : Entries) : Option (Text × Value) :=
  names.findSome? fun name => (Entries.get? (.text name) entries).map (name, ·)

/-- Reads an entry that must be there. -/
def required (names : List Text) (read : Value → Checked α) (entries : Entries) : Checked α :=
  match find? names entries with
  | some (name, v) => Checked.under (.key name) (read v)
  | none => Checked.under (.key (names.headD "")) (.fail .missing)

/-- Reads an entry that may be missing. -/
def optional (names : List Text) (default : α) (read : Value → Checked α) (entries : Entries) :
    Checked α :=
  match find? names entries with
  | some (name, v) => Checked.under (.key name) (read v)
  | none => .ok default

end Field

/-- Reads a mapping by a definition of some name. -/
def readRecord {α : Type} (definition : String) (read : Entries → Checked α) : Value → Checked α
  | .map entries => read entries
  | _ => .fail (.notRecord definition)

end OfferRules

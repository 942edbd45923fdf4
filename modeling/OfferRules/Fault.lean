import OfferRules.Text.Utf8
import OfferRules.Time.Calendar

/-!
# Faults

A fault is an unexpected failure of an evaluation, of a setting or of reading a rule file.  It is
told apart by its cause; `Fault.className` and `Fault.message` are the class and the wording under
which it is reported.

## Main definitions

* `Fault` — the causes.
* `Fault.className`, `Fault.message` — how a fault is reported.
* `numeralLimit` — the greatest number of digits of a whole number read or written as text.
-/

namespace OfferRules

/-- The greatest number of decimal digits of a whole number read or written as text. -/
def numeralLimit : Nat := 4300

/-- An unexpected failure. -/
inductive Fault where
  /-- A whole number of `2 ^ 1024` or more has no double. -/
  | overflow
  /-- A text is no whole number in a base. -/
  | badInteger (base : Nat) (text : Text)
  /-- A text is no double. -/
  | badDouble (text : Text)
  /-- A numeral to be read has too many digits. -/
  | longNumeral (digits : Nat)
  /-- A whole number to be written has too many digits. -/
  | longInteger
  /-- A numeral is empty. -/
  | emptyNumeral
  /-- A mapping has a key that a JSON object cannot have, of the given kind. -/
  | badKey (kind : String)
  /-- A name is not in a table. -/
  | missingKey (name : Text)
  /-- A text asked to be a timestamp is none. -/
  | noTimestamp
  /-- A collection stands where a text is matched with a form. -/
  | noText
  /-- Calendar fields that make no date or reading. -/
  | calendar (cause : CalendarError)
  /-- An offset from universal time of a day or more, in microseconds. -/
  | badOffset (micros : Int)
  /-- Bytes that are not UTF-8. -/
  | badText (cause : Utf8Error)
  /-- A text that has no bytes in UTF-8. -/
  | tornText (cause : SurrogateError)
  /-- The weights of the eligible rules have no finite sum. -/
  | weightTotal
  /-- There is no selection strategy of a name. -/
  | unknownStrategy (name : String)
  /-- There is no gate of a name. -/
  | unknownGate (name : String)
  /-- A gate needs at least one bucket. -/
  | bucketCount
  /-- There is no level of logging of a name. -/
  | unknownLevel (name : String)
  /-- A value of a kind that makes no double. -/
  | notNumeric (kind : String)
  /-- A value of a kind that cannot be added to a double. -/
  | notAddable (kind : String)
  /-- A number outside what a JSON document can hold. -/
  | notJson
  /-- Bytes of a payload that are not UTF-8. -/
  | badPayload (cause : Utf8Error)
  /-- A text of a payload that has no bytes in UTF-8. -/
  | tornPayload (cause : SurrogateError)
  /-- A pattern repeats a part more often than can be counted. -/
  | repetitionCount
  /-- A pattern asks for both classes of characters, those of ASCII and all. -/
  | clashingClasses
  /-- A code beyond the last character. -/
  | noCharacter
  /-- A code of a character that fills more than a word. -/
  | wideCode
  /-- A list, or an object, of a JSON document is met deeper than its reader may follow. -/
  | deepNesting (object : Bool)
  /-- The collections of a document in a rule file stand deeper within one another than its reader
  may follow. -/
  | deepContent
  /-- A failure from outside, of a class and with a message. -/
  | outside (className message : String)
deriving DecidableEq, Repr

/-- A span of microseconds as days, seconds and microseconds, of which only the days may be
negative. -/
def spanText (micros : Int) : String :=
  let days := micros / 86400000000
  let seconds := micros / 1000000 % 86400
  let rest := micros % 1000000
  let parts := (if days = 0 then [] else ["days=" ++ toString days]) ++
    (if seconds = 0 then [] else ["seconds=" ++ toString seconds]) ++
    (if rest = 0 then [] else ["microseconds=" ++ toString rest])
  "datetime.timedelta(" ++ ", ".intercalate (if parts.isEmpty then ["0"] else parts) ++ ")"

namespace Fault

/-- The class under which a fault is reported. -/
def className : Fault → String
  | overflow | repetitionCount | wideCode => "OverflowError"
  | emptyNumeral => "IndexError"
  | badKey _ | notNumeric _ | notAddable _ | noText => "TypeError"
  | missingKey _ => "KeyError"
  | noTimestamp => "AttributeError"
  | badText _ => "UnicodeDecodeError"
  | tornText _ => "UnicodeEncodeError"
  | badPayload _ | tornPayload _ => "PydanticSerializationError"
  | deepNesting _ | deepContent => "RecursionError"
  | outside name _ => name
  | badInteger _ _ | badDouble _ | longNumeral _ | longInteger | calendar _ | badOffset _
  | weightTotal | unknownStrategy _ | unknownGate _ | bucketCount | unknownLevel _ | notJson
  | clashingClasses | noCharacter => "ValueError"

/-- The wording of a fault. -/
def message : Fault → String
  | overflow => "int too large to convert to float"
  | badInteger base text =>
    "invalid literal for int() with base " ++ toString base ++ ": " ++
      String.ofList ((quoted text).toList.take 200)
  | badDouble text => "could not convert string to float: " ++ quoted text
  | longNumeral digits =>
    "Exceeds the limit (" ++ toString numeralLimit ++ " digits) for integer string conversion: " ++
      "value has " ++ toString digits ++
      " digits; use sys.set_int_max_str_digits() to increase the limit"
  | longInteger =>
    "Exceeds the limit (" ++ toString numeralLimit ++ " digits) for integer string conversion; " ++
      "use sys.set_int_max_str_digits() to increase the limit"
  | emptyNumeral => "string index out of range"
  | badKey kind => "keys must be str, int, float, bool or None, not " ++ kind
  | missingKey name => quoted name
  | noTimestamp => "'NoneType' object has no attribute 'groupdict'"
  | noText => "expected string or bytes-like object, got 'list'"
  | calendar cause => cause.message
  | badOffset micros =>
    "offset must be a timedelta strictly between -timedelta(hours=24) and timedelta(hours=24), " ++
      "not " ++ spanText micros ++ "."
  | badText cause => cause.message
  | tornText cause => cause.message
  | weightTotal => "Total of weights must be finite"
  | unknownStrategy name => "Unknown selection strategy: " ++ name
  | unknownGate name => "Unknown A/B gate: " ++ name
  | bucketCount => "bucket_count must be positive"
  | unknownLevel name => "Unknown level: " ++ quoted name
  | notNumeric kind => "float() argument must be a string or a real number, not '" ++ kind ++ "'"
  | notAddable kind => "unsupported operand type(s) for +=: 'float' and '" ++ kind ++ "'"
  | notJson => "Out of range float values are not JSON compliant"
  | badPayload cause =>
    "Error serializing to JSON: " ++
      (if cause.reason = .unexpectedEnd then "incomplete utf-8 byte sequence"
        else "invalid utf-8 sequence of " ++ toString cause.bytes.length ++ " bytes") ++
      " from index " ++ toString cause.position
  | tornPayload cause => "Error serializing to JSON: UnicodeEncodeError: " ++ cause.message
  | repetitionCount => "the repetition number is too large"
  | clashingClasses => "ASCII and UNICODE flags are incompatible"
  | noCharacter => "chr() arg not in range(0x110000)"
  | wideCode => "Python int too large to convert to C int"
  | deepNesting object =>
    "maximum recursion depth exceeded while decoding a JSON " ++
      (if object then "object" else "array") ++ " from a unicode string"
  | deepContent => "maximum recursion depth exceeded"
  | outside _ text => text

end Fault
end OfferRules

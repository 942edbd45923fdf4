import OfferRules.Fault
import OfferRules.Value.Basic

/-!
# Payloads of answers

Answers are JSON documents, but rules may hold values that JSON lacks.  An answer shows them in
the closest form that JSON has: what is not finite as null, dates and readings as texts, bytes as
the text they write, sets and pairs as lists, and keys as texts.  A torn text cannot be sent.

## Main definitions

* `DateTime.zulu` — the text of a reading in answers.
* `Atom.payloadKey`, `Atom.payload`, `Value.payload` — keys, leaves and values in JSON form.
* `Value.isFinite` — whether all doubles of a value are finite.
-/

namespace OfferRules

/-- The ISO 8601 text of a reading, with universal time as `Z`. -/
def DateTime.zulu (t : DateTime) : String :=
  if t.offset = some 0 then { t with offset := none }.iso ++ "Z" else t.iso

/-- The text that bytes write. -/
def payloadText (bytes : List UInt8) : Except Fault String :=
  match Utf8.decode bytes with
  | .ok cs => .ok (String.ofList cs)
  | .error e => .error (.badPayload e)

/-- The string that is sent for a text. -/
def payloadString (t : Text) : Except Fault String := t.string.mapError .tornPayload

/-- A key of a JSON object. -/
def Atom.payloadKey : Atom → Except Fault String
  | .null => .ok "None"
  | .bool b => .ok (if b then "true" else "false")
  | .number n => .ok n.text
  | .text t => payloadString t
  | .date d => .ok d.iso
  | .dateTime t => .ok t.zulu
  | .bytes b => payloadText b

/-- A leaf in JSON form. -/
def Atom.payload : Atom → Except Fault Atom
  | .number (.double d) => .ok (if d.isFinite then .number (.double d) else .null)
  | .date d => .ok (.text d.iso)
  | .dateTime t => .ok (.text t.zulu)
  | .bytes b => (payloadText b).map fun s => .text s
  | .text t => (payloadString t).map fun s => .text s
  | a => .ok a

namespace Value

mutual

/-- A value in JSON form. -/
def payload : Value → Except Fault Value
  | .atom a => a.payload.map .atom
  | .list items => (payloads items).map .list
  | .map entries => (payloadEntries entries).map fun es => .map (Entries.ofList es)
  | .set members => (members.mapM Atom.payload).map fun as => .list (as.map .atom)
  | .pair a b =>
    match payload a, payload b with
    | .ok a, .ok b => .ok (.list [a, b])
    | .error e, _ => .error e
    | _, .error e => .error e
termination_by structural v => v

/-- Values in JSON form. -/
def payloads : List Value → Except Fault (List Value)
  | [] => .ok []
  | v :: rest =>
    match payload v, payloads rest with
    | .ok v, .ok rest => .ok (v :: rest)
    | .error e, _ => .error e
    | _, .error e => .error e
termination_by structural vs => vs

/-- Entries in JSON form. -/
def payloadEntries : List (Atom × Value) → Except Fault (List (Atom × Value))
  | [] => .ok []
  | (k, v) :: rest =>
    match k.payloadKey, payload v, payloadEntries rest with
    | .ok k, .ok v, .ok rest => .ok ((.text k, v) :: rest)
    | .error e, _, _ => .error e
    | _, .error e, _ => .error e
    | _, _, .error e => .error e
termination_by structural es => es

end

/-- Whether a leaf is no double that is not finite. -/
def finiteAtom : Atom → Bool
  | .number (.double d) => d.isFinite
  | _ => true

mutual

/-- Whether all doubles of a value are finite. -/
def isFinite : Value → Bool
  | .atom a => finiteAtom a
  | .list items => allFinite items
  | .map entries => entriesFinite entries
  | .set members => members.all finiteAtom
  | .pair a b => isFinite a && isFinite b
termination_by structural v => v

/-- Whether all doubles of values are finite. -/
def allFinite : List Value → Bool
  | [] => true
  | v :: rest => isFinite v && allFinite rest
termination_by structural vs => vs

/-- Whether all doubles of entries are finite. -/
def entriesFinite : List (Atom × Value) → Bool
  | [] => true
  | (_, v) :: rest => isFinite v && entriesFinite rest
termination_by structural es => es

end

end Value
end OfferRules

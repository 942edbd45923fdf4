import OfferRules.Yaml.Problem

/-!
# Bytes in base sixty-four

Four characters write three bytes, six bits each.  Characters that are no digits are passed over.
Equals signs fill the last four characters, and what follows them is not read.
-/

namespace OfferRules.Yaml.Base64

/-- The value of a digit. -/
def digit? (c : Char) : Option Nat :=
  if 'A' ≤ c && c ≤ 'Z' then some (c.toNat - 65)
  else if 'a' ≤ c && c ≤ 'z' then some (c.toNat - 71)
  else if '0' ≤ c && c ≤ '9' then some (c.toNat + 4)
  else if c = '+' then some 62
  else if c = '/' then some 63
  else none

/-- The bytes that digits write after some digits of the present four: how many there were, their
bits that belong to no whole byte yet, and how many fillers followed them. -/
def bytes (count held fillers : Nat) : List Char → Option (List UInt8)
  | [] => if count = 0 then some [] else none
  | c :: rest =>
    if c = '=' then
      if 2 ≤ count && 4 ≤ count + fillers + 1 then some []
      else bytes count held (if 2 ≤ count then fillers + 1 else fillers) rest
    else match digit? c with
      | none => bytes count held fillers rest
      | some d =>
        match count with
        | 0 => bytes 1 d 0 rest
        | 1 => (bytes 2 (d % 16) 0 rest).map (UInt8.ofNat (held * 4 + d / 16) :: ·)
        | 2 => (bytes 3 (d % 4) 0 rest).map (UInt8.ofNat (held * 16 + d / 4) :: ·)
        | _ => (bytes 0 0 0 rest).map (UInt8.ofNat (held * 64 + d) :: ·)

/-- The bytes that an ASCII text writes. -/
def decode (cs : List Char) : Except Problem (List UInt8) :=
  if cs.all (·.toNat < 128) then
    match bytes 0 0 0 cs with
    | some bs => .ok bs
    | none => .error (.defect .bytes)
  else .error (.defect .bytes)

end OfferRules.Yaml.Base64

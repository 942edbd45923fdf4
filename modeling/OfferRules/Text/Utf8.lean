import OfferRules.Text.Quoted

/-!
# UTF-8

Bytes become text one character at a time.  Where they do not, the error names the bytes at
fault, their place and the reason: a byte that starts no character, a byte that does not
continue the one begun, or the end of the data inside a character.

A file is decoded in pieces: a character cut by the end of a piece is carried over to the next
one, and a place counts from the start of the bytes carried over.

Text becomes bytes unless it has a surrogate; the error names the first one with those after it.

## Main definitions

* `Utf8Error`, `Utf8Error.message` — what is wrong with bytes, and its wording.
* `Utf8.step` — the first character of some bytes.
* `Utf8.decode` — whole data at once.
* `Utf8.decodePieces` — the data of a file.
* `Text.string`, `Text.utf8` — the string of a text, and its bytes.
-/

namespace OfferRules

/-- Why bytes are not UTF-8. -/
inductive Utf8Reason where
  /-- A byte that starts no character. -/
  | invalidStart
  /-- A byte that does not continue the character begun. -/
  | invalidContinuation
  /-- The data ends inside a character. -/
  | unexpectedEnd
deriving DecidableEq, Repr

/-- Bytes that are not UTF-8: the bytes at fault, where they start, and why. -/
structure Utf8Error where
  /-- The bytes at fault. -/
  bytes : List UInt8
  /-- The place of the first of them. -/
  position : Nat
  /-- What is wrong with them. -/
  reason : Utf8Reason
deriving DecidableEq, Repr

/-- The wording of a reason. -/
def Utf8Reason.message : Utf8Reason → String
  | .invalidStart => "invalid start byte"
  | .invalidContinuation => "invalid continuation byte"
  | .unexpectedEnd => "unexpected end of data"

/-- The wording of a decoding error. -/
def Utf8Error.message (e : Utf8Error) : String :=
  "'utf-8' codec can't decode " ++
    (match e.bytes with
      | [b] => "byte 0x" ++ String.ofList (hexDigits 2 b.toNat) ++ " in position " ++
          toString e.position
      | bytes => "bytes in position " ++ toString e.position ++ "-" ++
          toString (e.position + bytes.length - 1)) ++
    ": " ++ e.reason.message

namespace Utf8

/-- The number of bytes of a character by its first byte, with the least and the greatest second
byte; none for a byte that starts no character. -/
def lead? (b : Nat) : Option (Nat × Nat × Nat) :=
  if b < 0x80 then some (1, 0, 0)
  else if b < 0xc2 then none
  else if b < 0xe0 then some (2, 0x80, 0xbf)
  else if b = 0xe0 then some (3, 0xa0, 0xbf)
  else if b = 0xed then some (3, 0x80, 0x9f)
  else if b < 0xf0 then some (3, 0x80, 0xbf)
  else if b = 0xf0 then some (4, 0x90, 0xbf)
  else if b < 0xf4 then some (4, 0x80, 0xbf)
  else if b = 0xf4 then some (4, 0x80, 0x8f)
  else none

/-- The first character of some bytes. -/
inductive Step where
  /-- There are no bytes. -/
  | done
  /-- A character of `size` bytes. -/
  | char (c : Char) (size : Nat)
  /-- So many bytes at fault. -/
  | bad (size : Nat) (reason : Utf8Reason)
  /-- The bytes end inside a character. -/
  | cut
deriving DecidableEq, Repr

/-- The low six bits of a continuation byte. -/
def tail (b : UInt8) : Nat := b.toNat - 0x80

/-- Whether a byte continues a character. -/
def isTail (b : UInt8) : Bool := 0x80 ≤ b.toNat && b.toNat ≤ 0xbf

/-- The first character of some bytes, or what is wrong with them. -/
def step : List UInt8 → Step
  | [] => .done
  | a :: rest =>
    match lead? a.toNat with
    | none => .bad 1 .invalidStart
    | some (size, low, high) =>
      if size = 1 then .char (Char.ofNat a.toNat) 1
      else match rest with
        | [] => .cut
        | b :: rest =>
          if b.toNat < low || high < b.toNat then .bad 1 .invalidContinuation
          else if size = 2 then .char (Char.ofNat ((a.toNat - 0xc0) * 64 + tail b)) 2
          else match rest with
            | [] => .cut
            | c :: rest =>
              if !isTail c then .bad 2 .invalidContinuation
              else if size = 3 then
                .char (Char.ofNat (((a.toNat - 0xe0) * 64 + tail b) * 64 + tail c)) 3
              else match rest with
                | [] => .cut
                | d :: _ =>
                  if !isTail d then .bad 3 .invalidContinuation
                  else
                    .char (Char.ofNat
                      ((((a.toNat - 0xf0) * 64 + tail b) * 64 + tail c) * 64 + tail d)) 4

/-- Decodes bytes as far as they go; the characters come out in reverse, with the bytes of a
character cut at the end. The last argument bounds the number of characters. -/
def decodeFrom (position : Nat) (out : List Char) (bytes : List UInt8) :
    Nat → Except Utf8Error (List Char × List UInt8)
  | 0 => .ok (out, bytes)
  | fuel + 1 =>
    match step bytes with
    | .done => .ok (out, [])
    | .cut => .ok (out, bytes)
    | .bad size reason => .error ⟨bytes.take size, position, reason⟩
    | .char c size => decodeFrom (position + size) (c :: out) (bytes.drop size) fuel

/-- The error of bytes that end inside a character. -/
def cutError (position : Nat) (bytes : List UInt8) : Utf8Error :=
  ⟨bytes, position, .unexpectedEnd⟩

/-- Whether two bytes begin a surrogate code point, which is not a character: such bytes at the
end of a piece are judged only with the next piece. -/
def isCutSurrogate : List UInt8 → Bool
  | [a, b] => a.toNat == 0xed && 0xa0 ≤ b.toNat && b.toNat ≤ 0xbf
  | _ => false

/-- Decodes whole data. -/
def decode (bytes : List UInt8) : Except Utf8Error (List Char) := do
  let (out, left) ← decodeFrom 0 [] bytes bytes.length
  if left.isEmpty then .ok out.reverse else .error (cutError (bytes.length - left.length) left)

/-- The number of bytes of a piece of a file. -/
def pieceSize : Nat := 8192

/-- Decodes one piece after the bytes carried over from the one before; an error in the two last
bytes of a piece that begin a surrogate is left to the next piece. -/
def decodePiece (out : List Char) (bytes : List UInt8) :
    Except Utf8Error (List Char × List UInt8) :=
  match decodeFrom 0 out bytes bytes.length with
  | .ok r => .ok r
  | .error e =>
    let left := bytes.drop e.position
    if isCutSurrogate left then
      match decodeFrom 0 out (bytes.take e.position) e.position with
      | .ok (out, _) => .ok (out, left)
      | .error e => .error e
    else .error e

/-- Decodes pieces in turn, then judges what the last one left over. -/
def decodeAll (out : List Char) (carried : List UInt8) :
    List (List UInt8) → Except Utf8Error (List Char)
  | [] =>
    match decodeFrom 0 out carried carried.length with
    | .ok (out, left) => if left.isEmpty then .ok out.reverse else .error (cutError 0 left)
    | .error e => .error e
  | piece :: rest =>
    match decodePiece out (carried ++ piece) with
    | .ok (out, left) => decodeAll out left rest
    | .error e => .error e

/-- Cuts data into pieces; the last argument bounds their number. -/
def pieces (bytes : List UInt8) : Nat → List (List UInt8)
  | 0 => []
  | fuel + 1 =>
    if bytes.isEmpty then []
    else bytes.take pieceSize :: pieces (bytes.drop pieceSize) fuel

/-- Decodes the data of a file piece by piece. -/
def decodePieces (bytes : List UInt8) : Except Utf8Error (List Char) :=
  decodeAll [] [] (pieces bytes (bytes.length / pieceSize + 1))

end Utf8

/-! ### Encoding -/

/-- Surrogates in a row that have no bytes: the first of them, its place in the text, and how many
they are. -/
structure SurrogateError where
  /-- The first of them. -/
  surrogate : Surrogate
  /-- Its place. -/
  position : Nat
  /-- How many they are. -/
  count : Nat
deriving DecidableEq, Repr

/-- The wording of an encoding error. -/
def SurrogateError.message (e : SurrogateError) : String :=
  "'utf-8' codec can't encode " ++
    (if e.count = 1 then "character '" ++ String.ofList (escapeCode e.surrogate.code) ++
        "' in position " ++ toString e.position
      else "characters in position " ++ toString e.position ++ "-" ++
        toString (e.position + e.count - 1)) ++
    ": surrogates not allowed"

namespace Text

/-- How many surrogates stand at the front of a text. -/
def surrogatesInFront : Text → Nat
  | whole _ => 0
  | torn before _ after => if before = "" then after.surrogatesInFront + 1 else 0

/-- The string that a text is, unless it is torn. -/
def string : Text → Except SurrogateError String
  | whole s => .ok s
  | torn before s after => .error ⟨s, before.length, after.surrogatesInFront + 1⟩

/-- The bytes of a text. -/
def utf8 (t : Text) : Except SurrogateError (List UInt8) := t.string.map fun s => s.toUTF8.toList

end Text
end OfferRules

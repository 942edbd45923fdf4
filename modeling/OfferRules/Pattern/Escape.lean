import OfferRules.Pattern.Progress
import OfferRules.Text.CharacterName

/-!
# Escapes in patterns

A backslash gives the character after it another meaning: a class of characters, an anchor, a
control character, a character by its number or name, or a reference to a group.  Before other
letters of ASCII it is refused, and all other characters stand for themselves.

## Main definitions

* `Pattern.setEscape` — an escape inside a set of characters.
* `Pattern.Item`, `Pattern.escape` — an escape outside sets.
-/

namespace OfferRules.Pattern

/-- The class that a letter names. -/
def kindOf? : Char → Option Member
  | 'd' => some (.kind .digit false)
  | 'D' => some (.kind .digit true)
  | 's' => some (.kind .blank false)
  | 'S' => some (.kind .blank true)
  | 'w' => some (.kind .word false)
  | 'W' => some (.kind .word true)
  | _ => none

/-- The anchor that a letter names. -/
def anchorOf? : Char → Option Anchor
  | 'A' => some .textStart
  | 'Z' => some .textEnd
  | 'b' => some .wordEdge
  | 'B' => some .noWordEdge
  | _ => none

/-- The character that a letter names. -/
def controlOf? : Char → Option Nat
  | 'a' => some 7
  | 'b' => some 8
  | 't' => some 9
  | 'n' => some 10
  | 'v' => some 11
  | 'f' => some 12
  | 'r' => some 13
  | '\\' => some 92
  | _ => none

/-- Whether a character is a digit of base eight. -/
def isOctal (c : Char) : Bool := '0' ≤ c && c ≤ '7'

/-- Whether a character is a digit of base sixteen. -/
def isHex (c : Char) : Bool := (digitIn? 16 c).isSome

/-- The number that digits of a base write. -/
def numberIn (base : Nat) (digits : List Char) : Nat :=
  digits.foldl (fun n c => base * n + (digitIn? base c).getD 0) 0

/-- The text of an escape. -/
def escapeText (c : Char) (more : List Char) : Text := String.ofList ('\\' :: c :: more)

/-- How many digits of base sixteen follow a letter. -/
def hexLength? : Char → Option Nat
  | 'x' => some 2
  | 'u' => some 4
  | 'U' => some 8
  | _ => none

/-- Reads the rest of an escape by a number of base sixteen. -/
def hexEscape (start : Nat) (c : Char) (count : Nat) : Reading Nat := do
  let digits ← takeUpTo count isHex
  if digits.length < count then failAt start (.shortEscape (escapeText c digits))
  else
    let n := numberIn 16 digits
    if 0x10ffff < n then failAt start (.badEscape (escapeText c digits)) else return n

/-- Reads the rest of an escape by the name of a character; a torn name leaves a bad escape, whose two
characters are placed as if they stood before what follows. -/
def nameEscape (start : Nat) : Reading Nat := do
  if ← accept (Char.ofNat 0x7b) then
    let name ← takeName "character name" (Char.ofNat 0x7d)
    match name.string with
    | .error _ => failAt ((← place) - 2) (.badEscape (escapeText 'N' []))
    | .ok s =>
      match characterNamed? s with
      | some n => return n
      | none => failAt start (.unknownCharacter name)
  else failAt (← place) .missingBrace

/-- The value of an octal escape, which must be that of a byte. -/
def octalValue (start : Nat) (digits : List Char) : Reading Nat :=
  let n := numberIn 8 digits
  if 0o377 < n then failAt start (.octalRange (String.ofList ('\\' :: digits))) else return n

/-- An escaped character that stands for itself; letters do not. -/
def plainEscape (start : Nat) (c : Char) : Reading Nat :=
  if c.isAlpha then failAt start (.badEscape (escapeText c [])) else return c.toNat

/-- Reads the rest of an escape by a character inside a set of characters. -/
def setEscapeBy (start : Nat) (c : Char) : Reading Member := do
  match controlOf? c, kindOf? c, hexLength? c with
  | some n, _, _ => return .code n
  | none, some kind, _ => return kind
  | none, none, some count => return .code (← hexEscape start c count)
  | none, none, none =>
    if c = 'N' then return .code (← nameEscape start)
    else if isOctal c then
      let more ← takeUpTo 2 isOctal
      return .code (← octalValue start (c :: more))
    else if isAsciiDigit c then failAt start (.badEscape (escapeText c []))
    else return .code (← plainEscape start c)

/-- Reads the rest of an escape inside a set of characters; a surrogate stands for itself. -/
def setEscape (start : Nat) : CodePoint → Reading Member
  | .char c => setEscapeBy start c
  | .surrogate s => return .code s.code

/-- What an escape outside sets stands for. -/
inductive Item where
  /-- A character. -/
  | code (n : Nat)
  /-- A class of characters. -/
  | kind (m : Member)
  /-- A place. -/
  | anchor (a : Anchor)
  /-- The text of a group. -/
  | again (index : Nat)

/-- A reference to a group by number. -/
def reference (start index : Nat) : Reading Item := do
  let s ← get
  if s.groupCount ≤ index then failAt (start + 1) (.noGroup index)
  else if (s.width? index).isNone then failAt start .openGroup
  else
    checkLook index
    return .again index

/-- Reads the rest of an escape that begins with a digit other than zero: three octal digits
name a character, one digit or two name a group. -/
def digitEscape (start : Nat) (c : Char) : Reading Item := do
  match ← takeUpTo 1 isAsciiDigit with
  | d :: _ =>
    if isOctal c && isOctal d then
      match ← takeUpTo 1 isOctal with
      | e :: _ => return .code (← octalValue start [c, d, e])
      | [] => reference start (numberIn 10 [c, d])
    else reference start (numberIn 10 [c, d])
  | [] => reference start (numberIn 10 [c])

/-- Reads the rest of an escape by a character outside sets. -/
def escapeBy (start : Nat) (c : Char) : Reading Item := do
  match anchorOf? c, kindOf? c, controlOf? c with
  | some a, _, _ => return .anchor a
  | none, some kind, _ => return .kind kind
  | none, none, some n => return .code n
  | none, none, none =>
    match hexLength? c with
    | some count => return .code (← hexEscape start c count)
    | none =>
      if c = 'N' then return .code (← nameEscape start)
      else if c = '0' then
        let more ← takeUpTo 2 isOctal
        return .code (numberIn 8 more)
      else if isAsciiDigit c then digitEscape start c
      else return .code (← plainEscape start c)

/-- Reads the rest of an escape outside sets; a surrogate stands for itself. -/
def escape (start : Nat) : CodePoint → Reading Item
  | .char c => escapeBy start c
  | .surrogate s => return .code s.code

end OfferRules.Pattern

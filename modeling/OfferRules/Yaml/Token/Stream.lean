import OfferRules.Yaml.Scalar
import OfferRules.Yaml.Token.Tag

/-!
# The tokens of a text

The layout of a text says where collections start and end: a dash or a key in a column beyond
that of the innermost collection starts a new one, and a token in a column before it ends it.
Inside brackets and braces the layout does not count.

A key is known only by the colon after it.  Where a key may start, the token there is kept in
mind as a *candidate*, and a colon on the same line within 1024 characters makes it a key.

## Main definitions

* `Yaml.Lexer` — the state between two tokens.
* `Yaml.Lexer.step` — the next tokens.
* `Yaml.tokens` — the tokens of a text.
-/

namespace OfferRules.Yaml

/-- A token that may turn out to be a key. -/
structure Candidate where
  /-- How many tokens stand before it. -/
  place : Nat
  /-- How many brackets are open around it. -/
  level : Nat
  /-- Whether it must be a key, since it starts a line in the column of a collection. -/
  required : Bool
  /-- How many characters stand before it. -/
  index : Nat
  /-- Its line. -/
  line : Nat
  /-- Its column. -/
  column : Nat

/-- The state between two tokens. -/
structure Lexer where
  /-- The place reached. -/
  cursor : Cursor
  /-- The tokens found, the last one first. -/
  found : List Token := []
  /-- How many brackets are open. -/
  level : Nat := 0
  /-- The columns of the open collections, the innermost first. -/
  columns : List Nat := []
  /-- Whether a key may start here. -/
  keyAllowed : Bool := true
  /-- The tokens that may turn out to be keys. -/
  candidates : List Candidate := []

namespace Lexer

/-! ### Candidates -/

/-- How far a colon may be from the start of its key. -/
def keyReach : Nat := 1024

/-- Whether a candidate can still be a key. -/
def isFresh (s : Lexer) (k : Candidate) : Bool :=
  k.line == s.cursor.line && s.cursor.index - k.index ≤ keyReach

/-- Drops the candidates that can no longer be keys. -/
def dropStale (s : Lexer) : Except Problem Lexer :=
  if s.candidates.any fun k => k.required && !s.isFresh k then defect .missingValue
  else .ok { s with candidates := s.candidates.filter s.isFresh }

/-- Drops the candidate at the present level. -/
def dropCandidate (s : Lexer) : Except Problem Lexer :=
  if s.candidates.any fun k => k.level == s.level && k.required then defect .missingValue
  else .ok { s with candidates := s.candidates.filter (·.level != s.level) }

/-- Whether a token here has the column of the innermost collection. -/
def inColumn (s : Lexer) : Bool := s.level == 0 && s.columns.head? == some s.cursor.column

/-- Keeps the next token in mind as a candidate, if a key may start here. -/
def keepCandidate (s : Lexer) : Except Problem Lexer :=
  if s.keyAllowed then do
    let s ← s.dropCandidate
    let k : Candidate :=
      { place := s.found.length, level := s.level, required := s.inColumn
        index := s.cursor.index, line := s.cursor.line, column := s.cursor.column }
    return { s with candidates := k :: s.candidates }
  else .ok s

/-! ### Layout -/

/-- Adds a token and moves on. -/
def emit (s : Lexer) (t : Token) (after : Cursor) : Lexer :=
  { s with found := t :: s.found, cursor := after }

/-- Whether a collection starts in a column. -/
def opensAt (s : Lexer) (column : Nat) : Bool := s.columns.head?.all (· < column)

/-- Starts a collection in the present column if it is beyond that of the innermost one. -/
def openHere (s : Lexer) (start : Token) : Lexer :=
  if s.level = 0 && s.opensAt s.cursor.column then
    { s with found := start :: s.found, columns := s.cursor.column :: s.columns }
  else s

/-- Ends the collections that a token does not belong to, given whether a column is beyond it. -/
def closeWhile (beyond : Nat → Bool) (s : Lexer) : Lexer :=
  if s.level = 0 then
    let closed := s.columns.takeWhile beyond
    { s with
      found := List.replicate closed.length Token.blockEnd ++ s.found
      columns := s.columns.drop closed.length }
  else s

/-- Ends all collections, as before a mark or the end of the text; no key may start then. -/
def closeAll (s : Lexer) : Except Problem Lexer := do
  let s ← (s.closeWhile fun _ => true).dropCandidate
  return { s with keyAllowed := false }

/-! ### Gaps -/

/-- The state at the next token: spaces, comments and line ends are passed. -/
def skipGap (s : Lexer) : Nat → Lexer
  | 0 => s
  | fuel + 1 =>
    let c := s.cursor.skipWhile (· == ' ')
    let c := if c.rest.head? = some '#' then c.skipWhile (!isLineEnd ·) else c
    match c.lineEnd? with
    | none => { s with cursor := c }
    | some (_, c) =>
      skipGap { s with cursor := c, keyAllowed := s.keyAllowed || s.level == 0 } fuel

/-- The state at the first token: a mark of the byte order is passed too. -/
def skipMark (s : Lexer) : Lexer :=
  if s.cursor.index = 0 && s.cursor.rest.head? = some byteOrderMark then
    { s with cursor := s.cursor.next }
  else s

/-! ### Tokens -/

/-- A token that stands alone and may be a key by itself. -/
def plainToken (s : Lexer) (read : Cursor → Except Problem (Token × Cursor)) :
    Except Problem Lexer := do
  let s ← s.keepCandidate
  let (t, after) ← read s.cursor
  return { s.emit t after with keyAllowed := false }

/-- A mark between documents. -/
def documentMark (s : Lexer) (t : Token) : Except Problem Lexer := do
  let s ← s.closeAll
  return s.emit t (s.cursor.skip 3)

/-- An opening bracket or brace. -/
def opening (s : Lexer) (t : Token) : Except Problem Lexer := do
  let s ← s.keepCandidate
  return { s.emit t s.cursor.next with level := s.level + 1, keyAllowed := true }

/-- A closing bracket or brace. -/
def closing (s : Lexer) (t : Token) : Except Problem Lexer :=
  if s.level = 0 then defect .unclosedCollection
  else do
    let s ← s.dropCandidate
    return { s.emit t s.cursor.next with level := s.level - 1, keyAllowed := false }

/-- A comma. -/
def comma (s : Lexer) : Except Problem Lexer := do
  let s ← s.dropCandidate
  return { s.emit .comma s.cursor.next with keyAllowed := true }

/-- The dash of an entry. -/
def dash (s : Lexer) : Except Problem Lexer :=
  if s.level = 0 && !s.keyAllowed then defect .misplaced
  else do
    let s ← (s.openHere .sequenceStart).dropCandidate
    return { s.emit .dash s.cursor.next with keyAllowed := true }

/-- The question mark before a key. -/
def questionMark (s : Lexer) : Except Problem Lexer :=
  if s.level = 0 && !s.keyAllowed then defect .misplaced
  else do
    let s ← (s.openHere .mappingStart).dropCandidate
    return { s.emit .key s.cursor.next with keyAllowed := s.level == 0 }

/-- Puts tokens before one that was found, given by how many stand before it. -/
def putBefore (s : Lexer) (place : Nat) (ts : List Token) : Lexer :=
  let later := s.found.length - place
  { s with found := s.found.take later ++ ts.reverse ++ s.found.drop later }

/-- Makes a candidate a key; if its column is beyond that of the innermost collection, a mapping
starts there. -/
def makeKey (s : Lexer) (k : Candidate) : Lexer :=
  let s := { s with candidates := s.candidates.filter (·.level != s.level) }
  if s.level = 0 && s.opensAt k.column then
    { s.putBefore k.place [.mappingStart, .key] with columns := k.column :: s.columns }
  else s.putBefore k.place [.key]

/-- The colon before a value. -/
def colon (s : Lexer) : Except Problem Lexer :=
  match s.candidates.find? (·.level == s.level) with
  | some k =>
    let s := s.makeKey k
    .ok { s.emit .value s.cursor.next with keyAllowed := false }
  | none =>
    if s.level = 0 && !s.keyAllowed then defect .misplaced
    else do
      let s ← (s.openHere .mappingStart).dropCandidate
      return { s.emit .value s.cursor.next with keyAllowed := s.level == 0 }

/-- A scalar written as a block. -/
def block (s : Lexer) (isFolded : Bool) : Except Problem Lexer := do
  let s ← s.dropCandidate
  let least := max 1 (s.columns.head?.elim 0 (· + 1))
  let (text, after) ← Block.read isFolded least s.cursor.next
  return { s.emit (.scalar false text) after with keyAllowed := true }

/-- A plain scalar. -/
def plain (s : Lexer) : Except Problem Lexer := do
  let s ← s.keepCandidate
  let r := Plain.read (s.level != 0) (s.columns.head?.elim 0 (· + 1)) s.cursor
  return { s.emit (.scalar true (String.ofList r.text)) r.after with keyAllowed := r.onNewLine }

/-- The characters that start no plain scalar. -/
def indicators : List Char :=
  ['-', '?', ':', ',', '[', ']', Char.ofNat 0x7b, Char.ofNat 0x7d, '#', '&', '*', '!', '|', '>',
    apostrophe, quotationMark, '%', '@', Char.ofNat 0x60]

/-- Whether a plain scalar starts with a character before a text. -/
def startsPlain (s : Lexer) (x : Char) (rest : List Char) : Bool :=
  !(isGap x || isLineEnd x || indicators.contains x) ||
    (!startsBlank rest && (x == '-' || (s.level == 0 && (x == '?' || x == ':'))))

/-- The token that starts with a character before a text. -/
def token (s : Lexer) (x : Char) (rest : List Char) : Except Problem Lexer :=
  let inBrackets := s.level != 0
  let atStart := s.cursor.column == 0
  let parts := inBrackets || startsBlank rest
  if x = '%' && atStart then do
    let s ← s.closeAll
    let (t, after) ← readDirective s.cursor
    return s.emit t after
  else if atStart && startsMark '-' (x :: rest) then s.documentMark .documentStart
  else if atStart && startsMark '.' (x :: rest) then s.documentMark .documentEnd
  else if x = '[' then s.opening .bracketOpen
  else if x = Char.ofNat 0x7b then s.opening .braceOpen
  else if x = ']' then s.closing .bracketClose
  else if x = Char.ofNat 0x7d then s.closing .braceClose
  else if x = ',' then s.comma
  else if x = '-' && startsBlank rest then s.dash
  else if x = '?' && parts then s.questionMark
  else if x = ':' && parts then s.colon
  else if x = '*' then s.plainToken fun c => (readName c).map fun r => (.alias r.1, r.2)
  else if x = '&' then s.plainToken fun c => (readName c).map fun r => (.anchor r.1, r.2)
  else if x = '!' then s.plainToken readTag
  else if x = '|' && !inBrackets then s.block false
  else if x = '>' && !inBrackets then s.block true
  else if x = apostrophe || x = quotationMark then
    s.plainToken fun c => (Quoted.read c).map fun r => (.scalar false r.1, r.2)
  else if s.startsPlain x rest then s.plain
  else defect .token

/-- The next tokens; none after the end of the text. -/
def step (s : Lexer) : Except Problem Lexer := do
  let s ← (s.skipMark.skipGap (s.cursor.rest.length + 1)).dropStale
  let s := s.closeWhile (s.cursor.column < ·)
  match s.cursor.rest with
  | [] =>
    let s ← s.closeAll
    return s.emit .finish s.cursor
  | x :: rest => s.token x rest

/-- The tokens that are settled: those before the first candidate, which may still get a token
put before it. -/
def settled (s : Lexer) : List Token :=
  let fresh := s.candidates.filter s.isFresh
  s.found.reverse.take (fresh.foldl (fun n k => min n k.place) s.found.length)

/-- The tokens up to the end of the text, or up to the one that cannot be made. -/
def run (s : Lexer) : Nat → List Token
  | 0 => s.settled
  | fuel + 1 =>
    match s.step with
    | .error p => s.settled ++ [.broken p]
    | .ok s => if s.found.head? = some .finish then s.found.reverse else run s fuel

end Lexer

/-- The tokens of a text. -/
def tokens (cs : List Char) : List Token :=
  Lexer.run { cursor := { rest := cs } } (cs.length + 2)

end OfferRules.Yaml

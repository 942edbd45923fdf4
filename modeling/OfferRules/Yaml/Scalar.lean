import OfferRules.Number.Whole
import OfferRules.Yaml.Cursor
import OfferRules.Yaml.Problem

/-!
# The texts of scalars

A scalar is written plain, in quotes or as a block.  In all forms the ends of lines are folded:
a single one becomes a space, of several all but the first are kept.

## Main definitions

* `Yaml.Quoted.read` — a scalar in quotes.
* `Yaml.Plain.read` — a plain scalar.
* `Yaml.Block.read` — a scalar written as a block, folded or not.
-/

namespace OfferRules.Yaml

/-- A line end folded with those after it: the first becomes a space if it stands alone and is a
plain one. -/
def folded (first : Char) (others : List Char) : List Char :=
  if first ≠ '\n' then first :: others
  else if others.isEmpty then [' '] else others

/-! ### Quotes -/

namespace Quoted

/-- The characters that an escape of one letter stands for. -/
def shortEscapes : List (Char × Nat) :=
  [('0', 0x00), ('a', 0x07), ('b', 0x08), ('t', 0x09), ('\t', 0x09), ('n', 0x0a), ('v', 0x0b),
    ('f', 0x0c), ('r', 0x0d), ('e', 0x1b), (' ', 0x20), (quotationMark, 0x22), ('\\', 0x5c),
    ('/', 0x2f), ('N', 0x85), ('_', 0xa0), ('L', 0x2028), ('P', 0x2029)]

/-- How many digits follow the letter of a long escape. -/
def longEscapes : List (Char × Nat) := [('x', 2), ('u', 4), ('U', 8)]

/-- The number that digits of base sixteen write. -/
def hexNumber? (cs : List Char) : Option Nat :=
  cs.foldl (fun n c => n.bind fun n => (digitIn? 16 c).map (16 * n + ·)) (some 0)

/-- The code point of a code.  A surrogate stays one, also beside another one. -/
def escaped (code : Nat) : Except Problem CodePoint :=
  if Nat.pow 2 31 ≤ code then .error (.fault .wideCode)
  else if 0x110000 ≤ code then .error (.fault .noCharacter)
  else .ok (.ofCode code)

/-- The code point of an escape after its letter, given the number of its digits. -/
def longEscape (count : Nat) (c : Cursor) : Except Problem (CodePoint × Cursor) :=
  let digits := c.rest.take count
  if digits.length < count then .error (.defect .escape)
  else match hexNumber? digits with
    | none => .error (.defect .escape)
    | some code => do
      return (← escaped code, c.skip count)

/-- The line ends from the start of a line on, with the blanks around them dropped; a mark
between documents must not stand among them. -/
def lineEnds (c : Cursor) : Nat → Except Problem (List Char × Cursor)
  | 0 => .ok ([], c)
  | fuel + 1 =>
    if startsDocumentMark c.rest then .error (.defect .unclosedQuote)
    else
      let c := c.skipWhile isGap
      match c.lineEnd? with
      | none => .ok ([], c)
      | some (x, c) => do
        let (more, c) ← lineEnds c fuel
        return (x :: more, c)

/-- The blanks and line ends at a place, folded. -/
def gap (c : Cursor) : Except Problem (List Char × Cursor) :=
  let (blanks, c) := c.span isGap
  match c.lineEnd? with
  | none => .ok (blanks, c)
  | some (x, c) => do
    let (others, c) ← lineEnds c (c.rest.length + 1)
    return (folded x others, c)

/-- The escape after a backslash: the code points it stands for, and the place after it. -/
def escape (c : Cursor) : Except Problem (List CodePoint × Cursor) :=
  match c.rest with
  | [] => .error (.defect .escape)
  | x :: _ =>
    match shortEscapes.lookup x, longEscapes.lookup x with
    | some code, _ => .ok ([.char (Char.ofNat code)], c.next)
    | none, some count => do
      let (y, c) ← longEscape count c.next
      return ([y], c)
    | none, none =>
      match c.lineEnd? with
      | some (_, c) => (lineEnds c (c.rest.length + 1)).map fun r => (r.1.map .char, r.2)
      | none => .error (.defect .escape)

/-- The text of a scalar up to its closing quote, after the code points found before, the last
first. -/
def readFrom (double : Bool) (found : List CodePoint) (c : Cursor) :
    Nat → Except Problem (Text × Cursor)
  | 0 => .error (.defect .unclosedQuote)
  | fuel + 1 =>
    match c.rest with
    | [] => .error (.defect .unclosedQuote)
    | x :: rest =>
      if isGap x || isLineEnd x then do
        let (between, c) ← gap c
        readFrom double ((between.map .char).reverse ++ found) c fuel
      else if double then
        if x = quotationMark then .ok (.ofPoints found.reverse, c.next)
        else if x = '\\' then do
          let (more, c) ← escape c.next
          readFrom double (more.reverse ++ found) c fuel
        else readFrom double (.char x :: found) c.next fuel
      else if x = apostrophe then
        if rest.head? = some apostrophe then readFrom double (.char x :: found) (c.skip 2) fuel
        else .ok (.ofPoints found.reverse, c.next)
      else readFrom double (.char x :: found) c.next fuel

/-- The text of a scalar in quotes, and the place after it. -/
def read (c : Cursor) : Except Problem (Text × Cursor) :=
  readFrom (c.rest.head? = some quotationMark) [] c.next (c.rest.length + 1)

end Quoted

/-! ### Plain scalars -/

namespace Plain

/-- Whether a character parts the entries of a collection written in brackets. -/
def isBracketMark (c : Char) : Bool :=
  c == ',' || c == '[' || c == ']' || c == Char.ofNat 0x7b || c == Char.ofNat 0x7d

/-- Whether a plain scalar ends before a text, inside brackets or outside. -/
def endsBefore (inBrackets : Bool) : List Char → Bool
  | [] => true
  | x :: rest =>
    isGap x || isLineEnd x ||
      (x == ':' && (startsBlank rest || (inBrackets && rest.head?.any isBracketMark))) ||
      (inBrackets && (isBracketMark x || x == '?'))

/-- The part of a plain scalar at a place, without blanks. -/
def word (inBrackets : Bool) (c : Cursor) : List Char → List Char × Cursor
  | [] => ([], c)
  | x :: rest =>
    if endsBefore inBrackets (x :: rest) then ([], c)
    else
      let (found, c) := word inBrackets (c.after x rest) rest
      (x :: found, c)

/-- The line ends and spaces from the start of a line on: the line ends, unless a mark between
documents stands among them, and the place after them. -/
def lineEnds (c : Cursor) : Nat → Option (List Char) × Cursor
  | 0 => (some [], c)
  | fuel + 1 =>
    let c := c.skipWhile (· == ' ')
    match c.lineEnd? with
    | none => (some [], c)
    | some (x, c) =>
      if startsDocumentMark c.rest then (none, c)
      else
        let (others, c) := lineEnds c fuel
        (others.map (x :: ·), c)

/-- What stands between two parts of a plain scalar. -/
structure Gap where
  /-- The text it becomes; none of it if the scalar ends here. -/
  text : List Char
  /-- Whether it goes over the end of a line. -/
  overLine : Bool
  /-- The place after it. -/
  after : Cursor

/-- The gap at a place. -/
def gap (c : Cursor) : Gap :=
  let (spaces, c) := c.span (· == ' ')
  match c.lineEnd? with
  | none => ⟨spaces, false, c⟩
  | some (x, c) =>
    if startsDocumentMark c.rest then ⟨[], true, c⟩
    else match lineEnds c (c.rest.length + 1) with
      | (some others, c) => ⟨folded x others, true, c⟩
      | (none, c) => ⟨[], true, c⟩

/-- A plain scalar as it was read. -/
structure Result where
  /-- Its text. -/
  text : List Char
  /-- Whether the place after it is on a new line. -/
  onNewLine : Bool
  /-- The place after it. -/
  after : Cursor

/-- Reads the parts of a plain scalar and the gaps between them.  A line that belongs to it
outside brackets has at least the columns of `indent`. -/
def readFrom (inBrackets : Bool) (indent : Nat) (between : List Char) (onNewLine : Bool)
    (c : Cursor) : Nat → Result
  | 0 => ⟨[], onNewLine, c⟩
  | fuel + 1 =>
    if c.rest.head? = some '#' then ⟨[], onNewLine, c⟩
    else
      let (part, c) := word inBrackets c c.rest
      if part.isEmpty then ⟨[], onNewLine, c⟩
      else
        let g := gap c
        if g.text.isEmpty || g.after.rest.head? = some '#' ||
            (!inBrackets && g.after.column < indent) then
          ⟨between ++ part, g.overLine, g.after⟩
        else
          let r := readFrom inBrackets indent g.text g.overLine g.after fuel
          { r with text := between ++ part ++ r.text }

/-- A plain scalar at a place. -/
def read (inBrackets : Bool) (indent : Nat) (c : Cursor) : Result :=
  readFrom inBrackets indent [] false c (c.rest.length + 1)

end Plain

/-! ### Blocks -/

namespace Block

/-- What becomes of the line ends at the end of a block. -/
inductive Chomping where
  /-- One of them is kept. -/
  | clip
  /-- None of them is kept. -/
  | strip
  /-- All of them are kept. -/
  | keep
deriving DecidableEq, Repr

/-- The chomping that a sign asks for. -/
def chomping? (c : Char) : Option Chomping :=
  if c = '+' then some .keep else if c = '-' then some .strip else none

/-- The header of a block after its first character: the chomping, the columns of indentation if
they are given, and the place after them. -/
def header (c : Cursor) : Except Problem (Chomping × Option Nat × Cursor) :=
  let sign (c : Cursor) : Option Chomping × Cursor :=
    match c.rest.head?.bind chomping? with
    | some k => (some k, c.next)
    | none => (none, c)
  let digit (c : Cursor) : Option Nat × Cursor :=
    match c.rest.head?.bind (digitIn? 10) with
    | some n => (some n, c.next)
    | none => (none, c)
  let (before, c) := sign c
  let (columns, c) := digit c
  let (after, c) := if before.isNone && columns.isSome then sign c else (none, c)
  if columns = some 0 || !startsSpace c.rest then .error (.defect .blockHeader)
  else .ok ((before <|> after).getD .clip, columns, c)

/-- The place of the line after a header, with the spaces and a comment dropped. -/
def afterHeader (c : Cursor) : Except Problem Cursor :=
  let c := c.skipWhile (· == ' ')
  let c := if c.rest.head? = some '#' then c.skipWhile (!isLineEnd ·) else c
  match c.rest, c.lineEnd? with
  | [], _ => .ok c
  | _, some (_, c) => .ok c
  | _, none => .error (.defect .blockHeader)

/-- The line ends at the start of a block and the greatest column of spaces among them. -/
def leading (c : Cursor) (widest : Nat) : List Char → List Char × Nat × Cursor
  | [] => ([], widest, c)
  | x :: rest =>
    if x = ' ' then
      let c := c.after x rest
      leading c (max widest c.column) rest
    else if isLineEnd x then
      let (ends, widest, after) := leading (c.after x rest) widest rest
      ((if x = nextLine then '\n' else x) :: ends, widest, after)
    else ([], widest, c)

/-- The line ends of empty lines, with the spaces of the indentation dropped. -/
def emptyLines (indent : Nat) (c : Cursor) : Nat → List Char × Cursor
  | 0 => ([], c)
  | fuel + 1 =>
    let c := c.skipIndent indent
    match c.lineEnd? with
    | none => ([], c)
    | some (x, c) =>
      let (others, c) := emptyLines indent c fuel
      (x :: others, c)

/-- The lines of a block from one that belongs to it on: the text, the end of the last line, and
the line ends of the empty lines before them and after them. -/
def lines (isFolded : Bool) (indent : Nat) (empty : List Char) (c : Cursor) :
    Nat → List Char × List Char × List Char × Cursor
  | 0 => ([], [], empty, c)
  | fuel + 1 =>
    if c.column ≠ indent || c.rest.isEmpty then ([], [], empty, c)
    else
      let indented := c.rest.head?.any isGap
      let (line, c) := c.span (!isLineEnd ·)
      let (last, c) := match c.lineEnd? with
        | some (x, c) => ([x], c)
        | none => ([], c)
      let (following, c) := emptyLines indent c (c.rest.length + 1)
      if c.column ≠ indent || c.rest.isEmpty then (empty ++ line, last, following, c)
      else
        let joint :=
          if isFolded && last = ['\n'] && !indented && !c.rest.head?.any isGap then
            (if following.isEmpty then [' '] else [])
          else last
        let (text, rest) := lines isFolded indent following c fuel
        (empty ++ line ++ joint ++ text, rest)

/-- The text of a block after its first character, and the place after it.  Its lines have at
least the columns of `least`. -/
def read (isFolded : Bool) (least : Nat) (c : Cursor) : Except Problem (String × Cursor) := do
  let (chomping, columns, c) ← header c
  let c ← afterHeader c
  let fuel := c.rest.length + 1
  let (indent, empty, c) := match columns with
    | some n =>
      let (empty, c) := emptyLines (least + n - 1) c fuel
      (least + n - 1, empty, c)
    | none =>
      let (empty, widest, c) := leading c 0 c.rest
      (max least widest, empty, c)
  let (text, last, following, c) := lines isFolded indent empty c fuel
  let ending := match chomping with
    | .clip => last
    | .strip => []
    | .keep => last ++ following
  return (String.ofList (text ++ ending), c)

end Block
end OfferRules.Yaml

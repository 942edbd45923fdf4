import OfferRules.Fault

/-!
# Places in a text of YAML

A text is read through a cursor, which knows the rest of the text and the place it has reached.
Line ends are the line feed, the next-line control and the two separators of lines and
paragraphs; a byte-order mark takes no column.

## Main definitions

* `Yaml.isLineEnd`, `Yaml.startsBlank` — classes of characters, and what a text starts with.
* `Yaml.Cursor` — a place in a text.
* `Yaml.Cursor.next`, `Yaml.Cursor.span`, `Yaml.Cursor.lineEnd?` — moving on.
-/

namespace OfferRules.Yaml

/-! ### Characters -/

/-- The mark of the byte order. -/
def byteOrderMark : Char := Char.ofNat 0xfeff

/-- The separator of lines. -/
def lineSeparator : Char := Char.ofNat 0x2028

/-- The separator of paragraphs. -/
def paragraphSeparator : Char := Char.ofNat 0x2029

/-- The control that starts a next line. -/
def nextLine : Char := Char.ofNat 0x85

/-- Whether a character ends a line. -/
def isLineEnd (c : Char) : Bool :=
  c == '\n' || c == nextLine || c == lineSeparator || c == paragraphSeparator

/-- Whether a character may stand in a text at all. -/
def isAllowed (c : Char) : Bool :=
  let n := c.toNat
  c == '\t' || c == '\n' || c == '\r' || (0x20 ≤ n && n ≤ 0x7e) || n == 0x85 ||
    (0xa0 ≤ n && n ≤ 0xd7ff) || (0xe000 ≤ n && n ≤ 0xfffd) || 0x10000 ≤ n

/-- Whether a character may stand in the name of an anchor, a directive or a handle of tags. -/
def isNameChar (c : Char) : Bool := c.isAlphanum || c == '-' || c == '_'

/-- A blank of one line. -/
def isGap (c : Char) : Bool := c == ' ' || c == '\t'

/-- Whether a text is at its end or at the end of a line. -/
def startsLineEnd : List Char → Bool
  | [] => true
  | c :: _ => isLineEnd c

/-- Whether a text is at its end or starts with a space or the end of a line. -/
def startsSpace : List Char → Bool
  | [] => true
  | c :: _ => c == ' ' || isLineEnd c

/-- Whether a text is at its end or starts with a blank or the end of a line. -/
def startsBlank : List Char → Bool
  | [] => true
  | c :: _ => isGap c || isLineEnd c

/-- Whether a text starts with a mark of three characters that stands alone. -/
def startsMark (mark : Char) : List Char → Bool
  | a :: b :: c :: rest => a == mark && b == mark && c == mark && startsBlank rest
  | _ => false

/-- Whether a text starts with a mark between documents. -/
def startsDocumentMark (cs : List Char) : Bool := startsMark '-' cs || startsMark '.' cs

/-! ### Cursors -/

/-- A place in a text. -/
structure Cursor where
  /-- The text from here on. -/
  rest : List Char
  /-- How many characters were passed. -/
  index : Nat := 0
  /-- How many line ends were passed. -/
  line : Nat := 0
  /-- How many characters of this line were passed. -/
  column : Nat := 0

namespace Cursor

/-- The place after a character, with the text from there on. -/
def after (c : Cursor) (x : Char) (rest : List Char) : Cursor :=
  if isLineEnd x then { rest, index := c.index + 1, line := c.line + 1, column := 0 }
  else
    { rest, index := c.index + 1, line := c.line
      column := if x = byteOrderMark then c.column else c.column + 1 }

/-- The place one character on. -/
def next (c : Cursor) : Cursor :=
  match c.rest with
  | [] => c
  | x :: rest => c.after x rest

/-- The place some characters on. -/
def skip : Nat → Cursor → Cursor
  | 0, c => c
  | n + 1, c => skip n c.next

/-- The characters of a class from a place on, given by the text there, and the place after
them. -/
def spanFrom (p : Char → Bool) (c : Cursor) : List Char → List Char × Cursor
  | [] => ([], c)
  | x :: rest =>
    if p x then
      let (found, c) := spanFrom p (c.after x rest) rest
      (x :: found, c)
    else ([], c)

/-- The characters of a class from a place on, and the place after them. -/
def span (p : Char → Bool) (c : Cursor) : List Char × Cursor := spanFrom p c c.rest

/-- The place after the characters of a class. -/
def skipWhile (p : Char → Bool) (c : Cursor) : Cursor := (c.span p).2

/-- The line end at a place as a document sees it, and the place after it. -/
def lineEnd? (c : Cursor) : Option (Char × Cursor) :=
  match c.rest with
  | [] => none
  | x :: rest =>
    if isLineEnd x then some (if x = nextLine then '\n' else x, c.after x rest) else none

/-- The place after the spaces up to some column. -/
def skipIndent (column : Nat) (c : Cursor) : Cursor :=
  let rec go (c : Cursor) : List Char → Cursor
    | [] => c
    | x :: rest => if c.column < column && x == ' ' then go (c.after x rest) rest else c
  go c c.rest

end Cursor

end OfferRules.Yaml

import OfferRules.Number.Whole
import OfferRules.Yaml.Cursor
import OfferRules.Yaml.Token

/-!
# Names, tags and directives

The tokens that name something: anchors and aliases, tags, and the directives before a document.

## Main definitions

* `Yaml.readName` — the name of an anchor or an alias.
* `Yaml.readTag` — a tag.
* `Yaml.readDirective` — a directive with the rest of its line.
-/

namespace OfferRules.Yaml

/-! ### Anchors and aliases -/

/-- The characters that may stand directly after a name. -/
def nameEnds : List Char :=
  ['?', ':', ',', ']', Char.ofNat 0x7d, '%', '@', Char.ofNat 0x60]

/-- The name after the character that announces an anchor or an alias. -/
def readName (c : Cursor) : Except Problem (String × Cursor) :=
  let (name, c) := c.next.span isNameChar
  if name.isEmpty || !(startsBlank c.rest || c.rest.head?.any nameEnds.contains) then defect .name
  else .ok (String.ofList name, c)

/-! ### Tags -/

/-- The signs that may stand in a tag beside letters and digits; the percent sign starts an
escape. -/
def tagSigns : List Char :=
  ['-', ';', '/', '?', ':', '@', '&', '=', '+', '$', ',', '_', '.', '!', '~', '*', apostrophe,
    '(', ')', '[', ']', '%']

/-- Whether a character may stand in a tag. -/
def isTagChar (c : Char) : Bool := c.isAlphanum || tagSigns.contains c

/-- The bytes of escapes at the front of a text. -/
def escapedBytes : List Char → Except Problem (List UInt8)
  | '%' :: a :: b :: rest =>
    match digitIn? 16 a, digitIn? 16 b with
    | some x, some y => (escapedBytes rest).map (UInt8.ofNat (16 * x + y) :: ·)
    | _, _ => defect .tag
  | '%' :: _ => defect .tag
  | _ => .ok []

/-- The characters that escapes at a place write, and the place after them. -/
def readEscapes (c : Cursor) : Except Problem (List Char × Cursor) := do
  let bytes ← escapedBytes c.rest
  match Utf8.decode bytes with
  | .ok cs => return (cs, c.skip (3 * bytes.length))
  | .error _ => defect .tag

/-- The characters of the name of a tag. -/
def tagChars (c : Cursor) : Nat → Except Problem (List Char × Cursor)
  | 0 => .ok ([], c)
  | fuel + 1 => do
    let (plain, c) := c.span fun x => isTagChar x && x != '%'
    if c.rest.head? = some '%' then
      let (escaped, c) ← readEscapes c
      let (more, c) ← tagChars c fuel
      return (plain ++ escaped ++ more, c)
    else return (plain, c)

/-- The name of a tag, which must not be empty. -/
def readTagName (c : Cursor) : Except Problem (String × Cursor) :=
  if c.rest.head?.any isTagChar then do
    let (cs, c) ← tagChars c (c.rest.length + 1)
    return (String.ofList cs, c)
  else defect .tag

/-- The handle of a tag: exclamation marks around a name that may be empty, or a single one
before a space. -/
def readHandle (c : Cursor) : Except Problem (String × Cursor) :=
  if c.rest.head? ≠ some '!' then defect .tag
  else
    let c := c.next
    if c.rest.head? = some ' ' then .ok ("!", c)
    else
      let (name, c) := c.span isNameChar
      if c.rest.head? = some '!' then .ok (String.ofList ('!' :: name ++ ['!']), c.next)
      else defect .tag

/-- A tag after which the text goes on as it must. -/
def closedTag (handle : Option String) (name : String) (c : Cursor) :
    Except Problem (Token × Cursor) :=
  if startsSpace c.rest then .ok (.tag handle name, c) else defect .tag

/-- A tag. -/
def readTag (c : Cursor) : Except Problem (Token × Cursor) :=
  match c.rest.drop 1 with
  | '<' :: _ => do
    let (name, c) ← readTagName (c.skip 2)
    if c.rest.head? = some '>' then closedTag none name c.next else defect .tag
  | rest =>
    if startsBlank rest then closedTag none "!" c.next
    else if (rest.takeWhile fun x => x != ' ' && !isLineEnd x).contains '!' then do
      let (handle, c) ← readHandle c
      let (name, c) ← readTagName c
      closedTag (some handle) name c
    else do
      let (name, c) ← readTagName c.next
      closedTag (some "!") name c

/-! ### Directives -/

/-- The place after the rest of a line on which nothing but a comment may stand. -/
def endDirective (c : Cursor) : Except Problem Cursor :=
  let c := c.skipWhile (· == ' ')
  let c := if c.rest.head? = some '#' then c.skipWhile (!isLineEnd ·) else c
  match c.rest, c.lineEnd? with
  | [], _ => .ok c
  | _, some (_, c) => .ok c
  | _, none => defect .directive

/-- A number of a version. -/
def readVersionNumber (c : Cursor) : Except Problem (Nat × Cursor) :=
  let (digits, c) := c.span Char.isDigit
  if digits.isEmpty then defect .directive
  else if numeralLimit < digits.length then .error (.fault (.longNumeral digits.length))
  else .ok (natOfDigits digits, c)

/-- The version after the name of its directive. -/
def readVersion (c : Cursor) : Except Problem (Token × Cursor) := do
  let (major, c) ← readVersionNumber (c.skipWhile (· == ' '))
  if c.rest.head? ≠ some '.' then defect .directive
  else
    let (minor, c) ← readVersionNumber c.next
    if startsSpace c.rest then return (.version major minor, c) else defect .directive

/-- The handle and its meaning after the name of their directive. -/
def readHandleMeaning (c : Cursor) : Except Problem (Token × Cursor) := do
  let (handle, c) ← readHandle (c.skipWhile (· == ' '))
  if c.rest.head? ≠ some ' ' then defect .directive
  else
    let (meaning, c) ← readTagName (c.skipWhile (· == ' '))
    if startsSpace c.rest then return (.handle handle meaning, c) else defect .directive

/-- A directive with the rest of its line. -/
def readDirective (c : Cursor) : Except Problem (Token × Cursor) := do
  let (name, c) := c.next.span isNameChar
  if name.isEmpty || !startsSpace c.rest then defect .directive
  else
    let (token, c) ←
      if name = "YAML".toList then readVersion c
      else if name = "TAG".toList then readHandleMeaning c
      else .ok (Token.directive, c.skipWhile (!isLineEnd ·))
    return (token, ← endDirective c)

end OfferRules.Yaml

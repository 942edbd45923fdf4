import OfferRules.Pattern.Problem

/-!
# Progress through the text of a pattern

The text of a pattern is read token by token; a token is a character, or a backslash with the
character after it.  What was read so far determines the groups, the mode and the place that a
later problem is reported at.

## Main definitions

* `Pattern.Token` — the tokens.
* `Pattern.Progress` — the text still to be read and what was learnt from the text before.
* `Pattern.Reading` — reading with failure.
-/

namespace OfferRules.Pattern

/-- A token of the text of a pattern. -/
inductive Token where
  /-- A code point other than the backslash. -/
  | plain (p : CodePoint)
  /-- A backslash with the code point after it. -/
  | escaped (p : CodePoint)
deriving DecidableEq, Repr

namespace Token

/-- The code points of a token. -/
def points : Token → List CodePoint
  | plain p => [p]
  | escaped p => [.char '\\', p]

/-- The text of a token. -/
def text (t : Token) : Text := .ofPoints t.points

/-- How many code points a token has. -/
def length (t : Token) : Nat := t.points.length

end Token

/-- What was learnt from the part of a pattern that was read. -/
structure Progress where
  /-- The text still to be read. -/
  rest : List CodePoint
  /-- The place of that text in the pattern. -/
  position : Nat := 0
  /-- The mode in force. -/
  mode : Mode := {}
  /-- Blanks and comments are skipped in the whole pattern. -/
  verbose : Bool := false
  /-- The classes of ASCII were asked for, for the whole pattern. -/
  asciiAsked : Bool := false
  /-- The classes of all characters were asked for, for the whole pattern. -/
  unicodeAsked : Bool := false
  /-- The pattern is a template, which repeats nothing. -/
  template : Bool := false
  /-- The widths of the groups, from group one on; an open group has none yet. -/
  widths : List (Option Width) := []
  /-- The named groups. -/
  names : List (Text × Nat) := []
  /-- Inside a look behind, the number of groups and of the whole when it began. -/
  lookGroups : Option Nat := none
  /-- The groups that choices ask for by number, each with the place of the first. -/
  asked : List (Nat × Nat) := []

/-- Reading the text of a pattern. -/
abbrev Reading := StateT Progress (Except Error)

/-! ### Tokens -/

/-- Fails with a problem at a place. -/
def failAt {α : Type} (position : Nat) (p : Problem) : Reading α :=
  throw (.problem p (some position))

/-- Goes on to a later part of the text; a lone backslash there is refused at once. -/
def moveTo (count : Nat) (rest : List CodePoint) : Reading Unit := do
  let s ← get
  let position := s.position + count
  if rest = [.char '\\'] then failAt position .escapeAtEnd
  else set { s with rest, position }

/-- The place of the text still to be read. -/
def place : Reading Nat := return (← get).position

/-- The token at the front of a text. -/
def frontToken? : List CodePoint → Option Token
  | [] => none
  | .char '\\' :: p :: _ => some (.escaped p)
  | p :: _ => some (.plain p)

/-- The next token, which stays. -/
def next? : Reading (Option Token) := return frontToken? (← get).rest

/-- Reads the next token. -/
def take? : Reading (Option Token) := do
  let s ← get
  let token := frontToken? s.rest
  let count := token.elim 0 Token.length
  moveTo count (s.rest.drop count)
  return token

/-- Reads a certain character if it is the next token. -/
def accept (c : Char) : Reading Bool := do
  if (← next?) = some (.plain (.char c)) then
    discard take?
    return true
  else return false

/-- Whether the next token is a digit. -/
def atDigit : Reading Bool := do
  match ← next? with
  | some (.plain p) => return p.isChar isAsciiDigit
  | _ => return false

/-- The characters at the front of a text that pass a test. -/
def charsWhile (ok : Char → Bool) : List CodePoint → List Char
  | .char c :: rest => if ok c then c :: charsWhile ok rest else []
  | _ => []

/-- Reads at most a number of characters as long as they pass a test that no backslash passes. -/
def takeUpTo (limit : Nat) (ok : Char → Bool) : Reading (List Char) := do
  let s ← get
  let found := charsWhile ok (s.rest.take limit)
  moveTo found.length (s.rest.drop found.length)
  return found

/-- Reads all digits that follow. -/
def takeDigits : Reading (List Char) := do
  takeUpTo (← get).rest.length isAsciiDigit

/-- A text up to a character that is a token by itself, and the text from there on. -/
def splitAtToken (c : Char) : List CodePoint → List CodePoint × List CodePoint
  | [] => ([], [])
  | [.char '\\'] => ([], [.char '\\'])
  | .char '\\' :: p :: rest =>
    let (before, after) := splitAtToken c rest
    (.char '\\' :: p :: before, after)
  | p :: rest =>
    if p = .char c then ([], p :: rest)
    else
      let (before, after) := splitAtToken c rest
      (p :: before, after)

/-- Reads on until after a character; whether it was found. -/
def skipPast (c : Char) : Reading Bool := do
  let s ← get
  let (before, after) := splitAtToken c s.rest
  match after with
  | p :: rest =>
    if p = .char c then
      moveTo (before.length + 1) rest
      return true
    else
      moveTo before.length after
      return false
  | [] =>
    moveTo before.length []
    return false

/-- Reads a name up to a character that ends it. -/
def takeName (what : String) (terminator : Char) : Reading Text := do
  let s ← get
  let (name, _) := splitAtToken terminator s.rest
  let ended ← skipPast terminator
  if name.isEmpty then failAt s.position (.missing what)
  else if ended then return .ofPoints name
  else failAt s.position (.openName terminator)

/-! ### Groups -/

/-- The number of groups, the whole text counted as one. -/
def Progress.groupCount (s : Progress) : Nat := s.widths.length + 1

/-- The width of a group that is closed. -/
def Progress.width? (s : Progress) (index : Nat) : Option Width :=
  if index = 0 then none else (s.widths[index - 1]?).join

/-- The number of a named group. -/
def Progress.named? (s : Progress) (name : Text) : Option Nat := s.names.lookup name

/-- Refuses a reference from inside a look behind to a group that is open or of the same look. -/
def checkLook (index : Nat) : Reading Unit := do
  let s ← get
  match s.lookGroups with
  | none => return ()
  | some count =>
    if (s.width? index).isNone then failAt s.position .openGroup
    else if count ≤ index then failAt s.position .lookGroup
    else return ()

/-- Opens a group, with its name and the place of the name. -/
def openGroup (name : Option (Text × Nat)) : Reading Nat := do
  let s ← get
  let index := s.groupCount
  match name with
  | none =>
    set { s with widths := s.widths ++ [none] }
    return index
  | some (name, position) =>
    match s.named? name with
    | some earlier => failAt position (.sameName name index earlier)
    | none =>
      set { s with
        widths := s.widths ++ [none]
        names := (name, index) :: s.names }
      return index

/-- Closes a group of a width. -/
def closeGroup (index : Nat) (width : Width) : Reading Unit :=
  modify fun s => { s with widths := s.widths.set (index - 1) (some width) }

/-- Whether a text may be the name of a group. -/
def isName : Text → Bool
  | .whole s => isIdentifier s.toList
  | .torn _ _ _ => false

/-- A name of a group must be an identifier. -/
def checkName (name : Text) (position : Nat) : Reading Unit := do
  if isName name then return () else failAt position (.badName name)

end OfferRules.Pattern

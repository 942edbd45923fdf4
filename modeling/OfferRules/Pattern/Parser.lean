import OfferRules.Pattern.Escape
import OfferRules.Pattern.Flag

/-!
# Reading patterns

The text of a pattern is a choice of sequences, separated by bars.  A sequence is made of
pieces: a character, a set in brackets, an escape, an anchor, or a group in parentheses, each
possibly repeated.

## Main definitions

* `Pattern.Part` — a pattern with its width.
* `Pattern.alternatives` — a choice of sequences, up to the end of its group.
* `Pattern.parse` — the whole pattern.
-/

namespace OfferRules.Pattern

/-- A pattern with its width. -/
structure Part where
  /-- The pattern. -/
  pattern : Pattern := .empty
  /-- How many characters it spans. -/
  width : Width := {}

/-- The shape of a piece, which decides whether it may be repeated. -/
inductive Shape where
  /-- A place, which cannot be repeated. -/
  | place
  /-- A repetition, which cannot be repeated as it stands. -/
  | repetition
  /-- All else. -/
  | other
deriving DecidableEq

/-- A piece of a sequence. -/
structure Piece extends Part where
  /-- Its shape. -/
  shape : Shape := .other

/-- The sequence of pieces given with the last one first. -/
def joined (pieces : List Piece) : Part :=
  pieces.foldl (fun after p => ⟨.both p.pattern after.pattern, p.width.both after.width⟩) {}

/-- A choice of two parts. -/
def Part.or (a b : Part) : Part := ⟨.either a.pattern b.pattern, a.width.either b.width⟩

/-- A piece that tests one character. -/
def single (test : Test) (mode : Mode) : Piece :=
  { pattern := .char test mode, width := ⟨1, 1⟩ }

/-! ### Sets of characters -/

/-- Reads one end of a span, or a member of a set. -/
def setMember (start : Nat) : Token → Reading Member
  | .plain p => return .code p.code
  | .escaped c => setEscape start c

/-- Reads the members of a set up to its closing bracket; the first token is a member even if it
is a bracket. -/
def setMembers : Nat → Nat → List Member → Reading (List Member)
  | 0, _, found => return found
  | fuel + 1, start, found => do
    let here ← place
    match ← take? with
    | none => failAt start .openSet
    | some first =>
      if first = .plain (.char ']') && !found.isEmpty then return found
      else
        let m ← setMember here first
        if ← accept '-' then
          let there ← place
          match ← take? with
          | none => failAt start .openSet
          | some (.plain (.char ']')) => return found ++ [m, .code 0x2d]
          | some last =>
            let n ← setMember there last
            let refused := Problem.badSpan first.text last.text
            let back := first.length + 1 + last.length
            match m, n with
            | .code lo, .code hi =>
              if hi < lo then failAt ((← place) - back) refused
              else setMembers fuel start (found ++ [.span lo hi])
            | _, _ => failAt ((← place) - back) refused
        else setMembers fuel start (found ++ [m])

/-- The test for a set; a set of one character is a test for it. -/
def setTest (negated : Bool) (members : List Member) : Test :=
  match members with
  | .code n :: rest => if rest.all (· = .code n) then .literal negated n else .oneOf negated members
  | _ => .oneOf negated members

/-- Reads a set after its opening bracket. -/
def readSet (start : Nat) : Reading Test := do
  let negated ← accept '^'
  let members ← setMembers ((← get).rest.length + 1) start []
  return setTest negated members

/-! ### Repetitions -/

/-- The bound that no count of repetitions may reach. -/
def repeatBound : Nat := 4294967295

/-- The count that digits write. -/
def repeatCount (digits : List Char) : Reading Nat :=
  if numeralLimit < digits.length then throw (.fault (.longNumeral digits.length))
  else
    let n := natOfDigits digits
    if repeatBound ≤ n then throw (.fault .repetitionCount) else return n

/-- Reads the counts of a repetition after their opening brace; without them the brace is a
character. -/
def readCounts : Reading (Option (Nat × Option Nat)) := do
  let saved ← get
  if (← next?) = some (.plain (.char (Char.ofNat 0x7d))) then return none
  else
    let lo ← takeDigits
    let comma ← accept ','
    let hi ← if comma then takeDigits else pure lo
    if ← accept (Char.ofNat 0x7d) then
      let least ← if lo.isEmpty then pure 0 else repeatCount lo
      if hi.isEmpty then return some (least, none)
      else
        let most ← repeatCount hi
        if most < least then failAt saved.position .repeatOrder
        else return some (least, some most)
    else
      set saved
      return none

/-- Reads the counts that a character of repetition stands for. -/
def readRepeat : Char → Reading (Option (Nat × Option Nat))
  | '?' => return some (0, some 1)
  | '*' => return some (0, none)
  | '+' => return some (1, none)
  | _ => readCounts

/-- What a repetition tries first, by the character after it. -/
def readGreed : Reading Greed := do
  if ← accept '?' then return .lazy
  else if ← accept '+' then return .possessive
  else return .greedy

/-- Repeats the last of the pieces of a sequence. -/
def repeatLast (start least : Nat) (most : Option Nat) : List Piece → Reading (List Piece)
  | [] => failAt start .nothingToRepeat
  | last :: before =>
    match last.shape with
    | .place => failAt start .nothingToRepeat
    | .repetition => failAt start .multipleRepeat
    | .other => do
      let greed ← readGreed
      let piece : Piece :=
        { pattern := .repeated greed least most last.pattern
          width := last.width.repeated least most
          shape := .repetition }
      return piece :: before

/-! ### Groups -/

/-- Reads a named reference to a group. -/
def readAgain : Reading Piece := do
  let here ← place
  let name ← takeName "group name" ')'
  checkName name here
  let s ← get
  match s.named? name with
  | none => failAt here (.unknownName name)
  | some index =>
    match s.width? index with
    | none => failAt here .openGroup
    | some width =>
      checkLook index
      return { pattern := .again index s.mode, width }

/-- The number that the name of a group writes. -/
def groupNumber? (name : Text) : Option Nat :=
  match parseWhole 10 name with
  | .ok (.ofNat n) => some n
  | _ => none

/-- Reads the group that a choice asks for, by name or by number. -/
def readAsked : Reading Nat := do
  let here ← place
  let name ← takeName "group name" ')'
  let s ← get
  if isName name then
    match s.named? name with
    | none => failAt here (.unknownName name)
    | some index => return index
  else
    match groupNumber? name with
    | some 0 => failAt here .groupNumber
    | some index =>
      if 1073741823 ≤ index then failAt here (.noGroup index)
      else
        if (s.asked.lookup index).isNone then
          set { s with asked := s.asked ++ [(index, here)] }
        return index
    | none => failAt here (.badName name)

/-- What stands at the beginning of a group. -/
inductive Opening where
  /-- Nothing more, or a name with its place: the text of the group is remembered. -/
  | capture (name : Option (Text × Nat))
  /-- Flags for the part in the group. -/
  | plain (flags : Flags)
  /-- An atomic group. -/
  | atomic
  /-- A look ahead. -/
  | ahead (negated : Bool)
  /-- A look behind. -/
  | behind (negated : Bool)
  /-- A choice by a group. -/
  | given (index : Nat)
  /-- A reference to a group, complete. -/
  | done (piece : Piece)
  /-- A comment, or flags for the whole pattern, complete. -/
  | nothing (flags : Bool)

/-- Reads the extension of a group after its question mark, which is at a place. -/
def readExtension (start mark : Nat) : Reading Opening := do
  match ← take? with
  | none => failAt (← place) .unexpectedEnd
  | some token =>
    let unknown (before : String) (t : Token) : Reading Opening :=
      failAt mark (.unknownExtension (before ++ t.text))
    match token with
    | .plain (.char 'P') =>
      if ← accept '<' then
        let here ← place
        let name ← takeName "group name" '>'
        checkName name here
        return .capture (some (name, here))
      else if ← accept '=' then return .done (← readAgain)
      else
        match ← take? with
        | none => failAt (← place) .unexpectedEnd
        | some next => unknown "P" next
    | .plain (.char ':') => return .plain {}
    | .plain (.char '#') =>
      if ← skipPast ')' then return .nothing false
      else failAt start .openComment
    | .plain (.char '=') => return .ahead false
    | .plain (.char '!') => return .ahead true
    | .plain (.char '<') =>
      match ← take? with
      | none => failAt (← place) .unexpectedEnd
      | some (.plain (.char '=')) => return .behind false
      | some (.plain (.char '!')) => return .behind true
      | some next => unknown "<" next
    | .plain (.char '(') => return .given (← readAsked)
    | .plain (.char '>') => return .atomic
    | .plain (.char '-') =>
      match ← readFlags none with
      | some flags => return .plain flags
      | none => return .nothing true
    | .plain (.char c) =>
      match flagOf? c with
      | some f =>
        match ← readFlags (some f) with
        | some flags => return .plain flags
        | none => return .nothing true
      | none => unknown "" token
    | _ => unknown "" token

/-- Reads the beginning of a group. -/
def readOpening (start : Nat) : Reading Opening := do
  let mark ← place
  if ← accept '?' then readExtension start mark else return .capture none

/-- Reads the closing parenthesis of a group. -/
def readClosing (start : Nat) : Reading Unit := do
  if ← accept ')' then return () else failAt start .openParenthesis

/-! ### Sequences and choices -/

/-- The piece that an escape outside sets stands for. -/
def itemPiece (s : Progress) : Item → Piece
  | .code n => single (.literal false n) s.mode
  | .kind m => single (.oneOf false [m]) s.mode
  | .anchor a => { pattern := .anchor a s.mode, shape := .place }
  | .again index => { pattern := .again index s.mode, width := (s.width? index).getD {} }

/-- What a character outside groups stands for, other than a group. -/
def plainPiece (start : Nat) (c : Char) : Reading Piece := do
  let mode := (← get).mode
  match c with
  | '[' => return single (← readSet start) mode
  | '.' => return single .any mode
  | '^' => return { pattern := .anchor .lineStart mode, shape := .place }
  | '$' => return { pattern := .anchor .lineEnd mode, shape := .place }
  | c => return single (.literal false c.toNat) mode

/-- Whether a character repeats the piece before it. -/
def isRepeat (c : Char) : Bool := c == '*' || c == '+' || c == '?' || c == Char.ofNat 0x7b

mutual

/-- Reads a choice of sequences; the outermost choice learns on the way whether blanks are
skipped in the whole pattern. -/
def alternatives : Nat → Bool → Bool → Reading Part
  | 0, _, _ => return {}
  | fuel + 1, verbose, outermost => do
    let first ← sequence fuel verbose outermost []
    moreAlternatives fuel verbose outermost first

/-- Reads the further sequences of a choice. -/
def moreAlternatives : Nat → Bool → Bool → Part → Reading Part
  | 0, _, _, soFar => return soFar
  | fuel + 1, verbose, outermost, soFar => do
    if ← accept '|' then
      let whole := (← get).verbose
      let verbose := if outermost then whole else verbose
      let next ← sequence fuel verbose false []
      moreAlternatives fuel verbose outermost (soFar.or next)
    else return soFar

/-- Reads the pieces of a sequence after those read before, the last of them first. -/
def sequence : Nat → Bool → Bool → List Piece → Reading Part
  | 0, _, _, found => return joined found
  | fuel + 1, verbose, first, found => do
    let start ← place
    match ← next? with
    | none | some (.plain (.char '|')) | some (.plain (.char ')')) => return joined found
    | some (.escaped p) =>
      discard take?
      let item ← escape start p
      let piece := itemPiece (← get) item
      sequence fuel verbose first (piece :: found)
    | some (.plain (.surrogate s)) =>
      discard take?
      let piece := single (.literal false s.code) (← get).mode
      sequence fuel verbose first (piece :: found)
    | some (.plain (.char c)) =>
      discard take?
      if verbose && isAsciiBlank c then sequence fuel verbose first found
      else if verbose && c = '#' then
        discard (skipPast '\n')
        sequence fuel verbose first found
      else if c = '(' then
        match ← readOpening start with
        | .nothing false => sequence fuel verbose first found
        | .nothing true =>
          if first && found.isEmpty then
            sequence fuel (← get).verbose first found
          else failAt start .lateFlags
        | .done piece => sequence fuel verbose first (piece :: found)
        | opening =>
          let piece ← groupPiece fuel verbose start opening
          sequence fuel verbose first (piece :: found)
      else if isRepeat c then
        match ← readRepeat c with
        | none =>
          let piece := single (.literal false c.toNat) (← get).mode
          sequence fuel verbose first (piece :: found)
        | some (least, most) =>
          sequence fuel verbose first (← repeatLast start least most found)
      else
        let piece ← plainPiece start c
        sequence fuel verbose first (piece :: found)

/-- Reads the rest of a group after its beginning. -/
def groupPiece : Nat → Bool → Nat → Opening → Reading Piece
  | 0, _, _, _ => return {}
  | fuel + 1, verbose, start, opening => do
    match opening with
    | .capture name =>
      let index ← openGroup name
      let body ← alternatives fuel verbose false
      readClosing start
      closeGroup index body.width
      return { pattern := .group index body.pattern, width := body.width }
    | .plain flags =>
      let mode := (← get).mode
      modify fun s => { s with mode := flags.apply mode }
      let body ← alternatives fuel (flags.verbose verbose) false
      readClosing start
      modify fun s => { s with mode }
      return { body with }
    | .atomic =>
      let body ← alternatives fuel verbose false
      readClosing start
      return { pattern := .atomic body.pattern, width := body.width }
    | .ahead negated =>
      let body ← alternatives fuel verbose false
      readClosing start
      return { pattern := .ahead negated body.pattern }
    | .behind negated =>
      let outer := (← get).lookGroups
      modify fun s => { s with lookGroups := some (outer.getD s.groupCount) }
      let body ← alternatives fuel verbose false
      modify fun s => { s with lookGroups := outer }
      readClosing start
      return { pattern := .behind body.width negated body.pattern }
    | .given index =>
      checkLook index
      let yes ← sequence fuel verbose false []
      let no ← if ← accept '|' then
          let no ← sequence fuel verbose false []
          if (← next?) = some (.plain (.char '|')) then failAt (← place) .threeBranches
          else pure (some no)
        else pure none
      readClosing start
      match no with
      | some no =>
        return { pattern := .given index yes.pattern no.pattern
                 width := yes.width.either no.width }
      | none =>
        return { pattern := .given index yes.pattern .empty, width := ⟨0, yes.width.most⟩ }
    | .done piece => return piece
    | .nothing _ => return {}

end

/-! ### The whole pattern -/

/-- The greatest length of a text that a look behind may span. -/
def lookBound : Nat := 4294967295

/-- The first problem that only the whole pattern shows: a look behind without a fixed width, or
a repetition in a template. -/
def lateProblem? (template : Bool) : Pattern → Option Problem
  | empty | char _ _ | anchor _ _ | again _ _ => none
  | both a b | either a b | given _ a b =>
    (lateProblem? template a).or (lateProblem? template b)
  | group _ body | atomic body | ahead _ body => lateProblem? template body
  | repeated greed _ _ body =>
    if template then some (.templateRepeat greed) else lateProblem? template body
  | behind width _ body =>
    if lookBound < width.least then some .lookLength
    else if width.least ≠ width.most then some .lookWidth
    else lateProblem? template body

/-- Reads a whole pattern. -/
def readWhole : Reading Pattern := do
  let s ← get
  if s.rest = [.char '\\'] then failAt 0 .escapeAtEnd
  let part ← alternatives (4 * s.rest.length + 4) false true
  let s ← get
  if s.asciiAsked && s.unicodeAsked then throw (.fault .clashingClasses)
  if !s.rest.isEmpty then failAt s.position .closedParenthesis
  match s.asked.find? fun a => s.groupCount ≤ a.1 with
  | some (index, position) => failAt position (.noGroup index)
  | none =>
    match lateProblem? s.template part.pattern with
    | some p => throw (.problem p none)
    | none => return part.pattern

/-- Reads the text of a pattern. -/
def parse (text : List CodePoint) : Except Error Pattern :=
  (readWhole.run { rest := text }).map Prod.fst

end OfferRules.Pattern

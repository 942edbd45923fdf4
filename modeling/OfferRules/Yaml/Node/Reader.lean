import OfferRules.Yaml.Node
import OfferRules.Yaml.Token.Stream

/-!
# Nodes from tokens

A document is read from its tokens.  Content that is left out is empty, an anchor names the node
it stands before, and an alias stands for the node of its anchor; inside that node itself it
stands for an empty collection.  Collections may stand within one another only so deep.

## Main definitions

* `Yaml.Reader` — reading with the tokens that are left and the anchors that are known.
* `Yaml.Reader.node` — a node.
* `Yaml.usualRoom` — how deep collections may stand within one another.
* `Yaml.document` — the document of a sequence of tokens, if it has one.
-/

namespace OfferRules.Yaml

/-- The state of reading. -/
structure Reading where
  /-- The tokens that are left. -/
  tokens : List Token
  /-- The anchors with their nodes. -/
  anchors : List (String × Node) := []
  /-- How many more collections may be entered, each within the one before. -/
  room : Nat

/-- How many collections may be entered, each within the one before, unless calls under way take
more room than usual: each takes two of a thousand calls. -/
def usualRoom : Nat := 480

/-- Reading with the tokens that are left and the anchors that are known. -/
abbrev Reader := StateT Reading (Except Problem)

/-- What the handles of tags stand for. -/
abbrev Handles := List (String × String)

namespace Reader

/-! ### Tokens -/

/-- Ends the reading with a defect. -/
def fail {α : Type} (d : Defect) : Reader α := throw (.defect d)

/-- The next token, which stays. -/
def peek : Reader Token := do
  match (← get).tokens with
  | [] => return .finish
  | .broken p :: _ => throw p
  | t :: _ => return t

/-- Drops the next token. -/
def drop : Reader Unit := modify fun s => { s with tokens := s.tokens.tail }

/-- Drops the next token if it is the one given. -/
def dropIf (t : Token) : Reader Bool := do
  if (← peek) = t then drop; return true else return false

/-! ### Properties of nodes -/

/-- The anchor at the front, if there is one. -/
def anchor? : Reader (Option String) := do
  match ← peek with
  | .anchor name => drop; return some name
  | _ => return none

/-- The tag at the front with its handle, if there is one. -/
def tag? : Reader (Option (Option String × String)) := do
  match ← peek with
  | .tag handle name => drop; return some (handle, name)
  | _ => return none

/-- The anchor and the tag at the front, in either order. -/
def properties : Reader (Option String × Option (Option String × String)) := do
  match ← anchor? with
  | some name => return (some name, ← tag?)
  | none =>
    match ← tag? with
    | some tag => return (← anchor?, some tag)
    | none => return (none, none)

/-- The full name of a tag. -/
def fullName (handles : Handles) : Option (Option String × String) → Reader (Option String)
  | none => return none
  | some (none, name) => return some name
  | some (some handle, name) =>
    match handles.lookup handle with
    | some meaning => return some (meaning ++ name)
    | none => fail .unknownHandle

/-- The tag of a collection. -/
def collectionTag (default : Tag) : Option String → Tag
  | none => default
  | some name => if name = "!" then default else Tag.named name

/-- The tag of a scalar: one without a tag of its own gets it by its form if it is plain. -/
def scalarTag (plain : Bool) (text : Text) : Option String → Tag
  | none => if plain then Tag.ofPlain text else .str
  | some name => if name = "!" then Tag.ofPlain text else Tag.named name

/-- Makes sure that an anchor is new. -/
def checkAnchor : Option String → Reader Unit
  | none => return ()
  | some name => do
    if ((← get).anchors.lookup name).isSome then fail .repeatedAnchor else return ()

/-- Gives an anchor its node. -/
def setAnchor (name : Option String) (n : Node) : Reader Unit :=
  match name with
  | none => return ()
  | some name => modify fun s => { s with anchors := (name, n) :: s.anchors }

/-- A scalar with its anchor. -/
def scalar (anchor : Option String) (n : Node) : Reader Node := do
  checkAnchor anchor
  setAnchor anchor n
  return n

/-- Reads inside a collection, which takes room. -/
def inside {α : Type} (read : Reader α) : Reader α := do
  match (← get).room with
  | 0 => throw (.fault .deepContent)
  | room + 1 =>
    modify fun s => { s with room }
    let a ← read
    modify fun s => { s with room := room + 1 }
    return a

/-- A collection with its anchor, which stands for an empty one while it is read. -/
def collection {α : Type} (anchor : Option String) (make : List α → Node)
    (read : Reader (List α)) : Reader Node := do
  checkAnchor anchor
  setAnchor anchor (make [])
  let n := make (← inside read)
  setAnchor anchor n
  return n

/-! ### Nodes -/

/-- Where a node stands. -/
inductive Site where
  /-- Inside brackets. -/
  | inBrackets
  /-- In lines. -/
  | inLines
  /-- In lines, as the key or the value of a mapping: the entries of a sequence may stand in the
  column of the mapping. -/
  | inMapping
deriving DecidableEq, Repr

/-- Drops the comma before an item; there is none before the first. -/
def followsComma (first : Bool) : Reader Bool := if first then return true else dropIf .comma

mutual

/-- A node. -/
def node (handles : Handles) (site : Site) : Nat → Reader Node
  | 0 => fail .unclosedCollection
  | fuel + 1 => do
    match ← peek with
    | .alias name =>
      drop
      match (← get).anchors.lookup name with
      | some n => return n
      | none => fail .unknownAlias
    | _ =>
      let (anchor, tag) ← properties
      let name ← fullName handles tag
      match ← peek with
      | .scalar plain text =>
        drop
        scalar anchor (.scalar (scalarTag plain text name) text)
      | .bracketOpen =>
        drop
        collection anchor (.seq (collectionTag .seq name)) (bracketItems handles true fuel)
      | .braceOpen =>
        drop
        collection anchor (.map (collectionTag .map name)) (braceEntries handles true fuel)
      | t =>
        if t = .dash && site = .inMapping then
          collection anchor (.seq (collectionTag .seq name)) (sameColumnItems handles fuel)
        else if t = .sequenceStart && site ≠ .inBrackets then
          drop
          collection anchor (.seq (collectionTag .seq name)) (lineItems handles fuel)
        else if t = .mappingStart && site ≠ .inBrackets then
          drop
          collection anchor (.map (collectionTag .map name)) (lineEntries handles fuel)
        else if anchor.isSome || name.isSome then
          scalar anchor (.scalar (scalarTag (name.isNone) "" name) "")
        else fail .missingContent

/-- A node, or an empty one before some tokens. -/
def nodeUnless (handles : Handles) (site : Site) (ends : List Token) : Nat → Reader Node
  | 0 => fail .unclosedCollection
  | fuel + 1 => do
    if ends.contains (← peek) then return .empty else node handles site fuel

/-- The value after a token, or an empty one if the token is not there. -/
def valueUnless (handles : Handles) (site : Site) (ends : List Token) : Nat → Reader Node
  | 0 => fail .unclosedCollection
  | fuel + 1 => do
    if ← dropIf .value then nodeUnless handles site ends fuel else return .empty

/-- The items of a sequence in lines. -/
def lineItems (handles : Handles) : Nat → Reader (List Node)
  | 0 => fail .unclosedCollection
  | fuel + 1 => do
    if ← dropIf .dash then
      let n ← nodeUnless handles .inLines [.dash, .blockEnd] fuel
      return n :: (← lineItems handles fuel)
    else if ← dropIf .blockEnd then return []
    else fail .unclosedCollection

/-- The items of a sequence in the column of its mapping. -/
def sameColumnItems (handles : Handles) : Nat → Reader (List Node)
  | 0 => fail .unclosedCollection
  | fuel + 1 => do
    if ← dropIf .dash then
      let n ← nodeUnless handles .inLines [.dash, .key, .value, .blockEnd] fuel
      return n :: (← sameColumnItems handles fuel)
    else return []

/-- The entries of a mapping in lines. -/
def lineEntries (handles : Handles) : Nat → Reader (List (Node × Node))
  | 0 => fail .unclosedCollection
  | fuel + 1 => do
    if ← dropIf .key then
      let k ← nodeUnless handles .inMapping [.key, .value, .blockEnd] fuel
      let v ← valueUnless handles .inMapping [.key, .value, .blockEnd] fuel
      return (k, v) :: (← lineEntries handles fuel)
    else if ← dropIf .blockEnd then return []
    else fail .unclosedCollection

/-- The items of a sequence in brackets; those after the first follow a comma.  An item with a
key is a mapping with one entry. -/
def bracketItems (handles : Handles) (first : Bool) : Nat → Reader (List Node)
  | 0 => fail .unclosedCollection
  | fuel + 1 => do
    if ← dropIf .bracketClose then return []
    else if !(← followsComma first) then fail .unclosedCollection
    else if ← dropIf .key then
      let entry ← inside do
        let k ← nodeUnless handles .inBrackets [.value, .comma, .bracketClose] fuel
        let v ← valueUnless handles .inBrackets [.comma, .bracketClose] fuel
        return (k, v)
      return .map .map [entry] :: (← bracketItems handles false fuel)
    else if ← dropIf .bracketClose then return []
    else
      let n ← node handles .inBrackets fuel
      return n :: (← bracketItems handles false fuel)

/-- The entries of a mapping in braces; those after the first follow a comma.  A node that is no
key of a value is a key without one. -/
def braceEntries (handles : Handles) (first : Bool) : Nat → Reader (List (Node × Node))
  | 0 => fail .unclosedCollection
  | fuel + 1 => do
    if ← dropIf .braceClose then return []
    else if !(← followsComma first) then fail .unclosedCollection
    else if ← dropIf .key then
      let k ← nodeUnless handles .inBrackets [.value, .comma, .braceClose] fuel
      let v ← valueUnless handles .inBrackets [.comma, .braceClose] fuel
      return (k, v) :: (← braceEntries handles false fuel)
    else if ← dropIf .braceClose then return []
    else
      let k ← node handles .inBrackets fuel
      return (k, .empty) :: (← braceEntries handles false fuel)

end

/-! ### Documents -/

/-- The handles that are known without a directive. -/
def knownHandles : Handles := [("!", "!"), ("!!", tagFamily)]

/-- The directives at the front: the handles that they define. -/
def directives (version : Bool) (defined : Handles) : Nat → Reader Handles
  | 0 => return defined
  | fuel + 1 => do
    match ← peek with
    | .version major _ =>
      drop
      if version then fail .repeatedDirective
      else if major ≠ 1 then fail .version
      else directives true defined fuel
    | .handle name meaning =>
      drop
      if (defined.lookup name).isSome then fail .repeatedDirective
      else directives version ((name, meaning) :: defined) fuel
    | .directive => drop; directives version defined fuel
    | _ => return defined

/-- Drops the marks that end documents. -/
def dropEnds : Nat → Reader Unit
  | 0 => return ()
  | fuel + 1 => do
    if ← dropIf .documentEnd then dropEnds fuel else return ()

/-- Makes sure that no other document follows. -/
def finish (fuel : Nat) : Reader Unit := do
  dropEnds fuel
  if (← peek) = .finish then return ()
  else
    let _ ← directives false [] fuel
    if (← peek) = .documentStart then fail .manyDocuments else fail .missingStart

/-- The document, if there is one. -/
def document (fuel : Nat) : Reader (Option Node) := do
  match ← peek with
  | .finish => return none
  | t =>
    let isMarked := match t with
      | .version _ _ | .handle _ _ | .directive | .documentStart => true
      | _ => false
    let n ←
      if isMarked then do
        let defined ← directives false [] fuel
        if !(← dropIf .documentStart) then fail .missingStart
        match ← peek with
        | .version _ _ | .handle _ _ | .directive | .documentStart | .documentEnd | .finish =>
          pure Node.empty
        | _ => node (defined ++ knownHandles) .inLines fuel
      else node knownHandles .inLines fuel
    finish fuel
    return some n

end Reader

/-- The document of a sequence of tokens, if it has one, with some room for its collections. -/
def document (room : Nat) (ts : List Token) : Except Problem (Option Node) :=
  (Reader.document (4 * ts.length + 4)).run' { tokens := ts, room }

end OfferRules.Yaml

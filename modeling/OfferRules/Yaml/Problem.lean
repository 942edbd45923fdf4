import OfferRules.Fault

/-!
# What is wrong with a text of YAML

A defect makes a text no document of the kind that is read here.  Besides, reading can end in a
fault, when a scalar announces a kind of value and does not write one.

## Main definitions

* `Yaml.Defect` — the defects, with their wording.
* `Yaml.Problem` — a defect or a fault.
-/

namespace OfferRules.Yaml

/-- Why a text is no document. -/
inductive Defect where
  /-- It has a character that must not stand in a text. -/
  | character
  /-- A directive is not well formed. -/
  | directive
  /-- A directive is given twice. -/
  | repeatedDirective
  /-- It is of another version than the one understood. -/
  | version
  /-- An anchor or an alias has no well-formed name. -/
  | name
  /-- A tag is not well formed. -/
  | tag
  /-- The header of a block scalar is not well formed. -/
  | blockHeader
  /-- A quoted scalar is not closed. -/
  | unclosedQuote
  /-- A quoted scalar has an escape that does not exist. -/
  | escape
  /-- A character starts no token. -/
  | token
  /-- An entry, a key or a value stands where none may start. -/
  | misplaced
  /-- A key has no value. -/
  | missingValue
  /-- A document has no start. -/
  | missingStart
  /-- There is more than one document. -/
  | manyDocuments
  /-- There is no content where some is needed. -/
  | missingContent
  /-- A collection is not closed. -/
  | unclosedCollection
  /-- A handle of tags is not defined. -/
  | unknownHandle
  /-- An alias has no anchor. -/
  | unknownAlias
  /-- Two anchors have one name. -/
  | repeatedAnchor
  /-- A tag has no meaning. -/
  | unknownTag
  /-- A tag stands with content of another form. -/
  | contentForm
  /-- What is merged into a mapping is no mapping. -/
  | merge
  /-- A key is a collection. -/
  | collectionKey
  /-- Bytes are not well written. -/
  | bytes
deriving DecidableEq, Repr

/-- The wording of a defect. -/
def Defect.message : Defect → String
  | character => "a character that must not stand in a text"
  | directive => "a directive that is not well formed"
  | repeatedDirective => "a directive that is given twice"
  | version => "a document of another version"
  | name => "an anchor or alias without a well-formed name"
  | tag => "a tag that is not well formed"
  | blockHeader => "a block scalar with a header that is not well formed"
  | unclosedQuote => "a quoted scalar that is not closed"
  | escape => "an escape that does not exist"
  | token => "a character that cannot start a token"
  | misplaced => "an entry, key or value that must not start here"
  | missingValue => "a key without a value"
  | missingStart => "a document without a start"
  | manyDocuments => "more than one document"
  | missingContent => "no content where some is needed"
  | unclosedCollection => "a collection that is not closed"
  | unknownHandle => "a handle of tags that is not defined"
  | unknownAlias => "an alias without an anchor"
  | repeatedAnchor => "two anchors of one name"
  | unknownTag => "a tag without a meaning"
  | contentForm => "a tag on content of another form"
  | merge => "a merge with something other than mappings"
  | collectionKey => "a key that is a collection"
  | bytes => "bytes that are not well written"

/-- Why a text could not be read. -/
inductive Problem where
  /-- It is no document. -/
  | defect (d : Defect)
  /-- Making a value ended in a fault. -/
  | fault (f : Fault)
deriving DecidableEq, Repr

/-- A defect as an outcome. -/
def defect {α : Type} (d : Defect) : Except Problem α := .error (.defect d)

end OfferRules.Yaml

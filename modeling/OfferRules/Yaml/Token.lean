import OfferRules.Yaml.Problem

/-!
# Tokens of YAML

A text is a sequence of tokens.  Where it is laid out in lines, the start and the end of a
collection are tokens of their own although no character stands for them.  A sequence of tokens
ends with the end of the text, or with what is wrong there.
-/

namespace OfferRules.Yaml

/-- A token. -/
inductive Token where
  /-- A directive that gives the version of the document. -/
  | version (major minor : Nat)
  /-- A directive that says what a handle of tags stands for. -/
  | handle (name meaning : String)
  /-- Any other directive. -/
  | directive
  /-- The mark that starts a document. -/
  | documentStart
  /-- The mark that ends a document. -/
  | documentEnd
  /-- A sequence laid out in lines starts. -/
  | sequenceStart
  /-- A mapping laid out in lines starts. -/
  | mappingStart
  /-- A collection laid out in lines ends. -/
  | blockEnd
  /-- An opening bracket. -/
  | bracketOpen
  /-- A closing bracket. -/
  | bracketClose
  /-- An opening brace. -/
  | braceOpen
  /-- A closing brace. -/
  | braceClose
  /-- The dash of an entry. -/
  | dash
  /-- The comma between entries. -/
  | comma
  /-- A key follows. -/
  | key
  /-- A value follows. -/
  | value
  /-- The content of an anchor. -/
  | alias (name : String)
  /-- The content that follows has a name. -/
  | anchor (name : String)
  /-- The content that follows has a tag; it is complete if it has no handle. -/
  | tag (handle : Option String) (name : String)
  /-- A scalar, plain or not. -/
  | scalar (plain : Bool) (text : Text)
  /-- The text ends. -/
  | finish
  /-- No token can be made of the text from here on. -/
  | broken (problem : Problem)
deriving DecidableEq, Repr

end OfferRules.Yaml

import OfferRules.Number.Decimal
import OfferRules.Number.Whole
import OfferRules.Text.Caseless
import OfferRules.Text.Word

/-!
# Patterns

A pattern describes texts: characters by tests, places by anchors, and their sequences, choices,
repetitions, groups, references back to groups, and looks ahead and behind.

## Main definitions

* `Pattern` — patterns.
* `Pattern.Mode` — how a part of a pattern compares characters.
* `Pattern.Test.holds` — when a test accepts a character.
* `Pattern.Width` — how many characters a pattern spans.
-/

namespace OfferRules

namespace Pattern

/-- How a part of a pattern compares characters and places. -/
structure Mode where
  /-- Letters are compared without regard to case. -/
  ignoreCase : Bool := false
  /-- The line anchors hold at every line of the text. -/
  everyLine : Bool := false
  /-- The dot accepts the end of a line too. -/
  dotAll : Bool := false
  /-- The classes of characters hold those of ASCII only. -/
  ascii : Bool := false
deriving DecidableEq, Repr

/-- A class of characters. -/
inductive Kind where
  /-- Decimal digits. -/
  | digit
  /-- Blanks. -/
  | blank
  /-- Characters of words. -/
  | word
deriving DecidableEq, Repr

/-- A member of a set of characters. -/
inductive Member where
  /-- The character of a code point. -/
  | code (n : Nat)
  /-- The characters from one code point to another. -/
  | span (first last : Nat)
  /-- The characters of a class, or all others. -/
  | kind (k : Kind) (negated : Bool)
deriving DecidableEq, Repr

/-- A test on one character. -/
inductive Test where
  /-- Any character, the end of a line excepted. -/
  | any
  /-- The character of a code point, or any other. -/
  | literal (negated : Bool) (n : Nat)
  /-- A character of a set, or any other. -/
  | oneOf (negated : Bool) (members : List Member)
deriving Repr

/-- A condition on a place in a text. -/
inductive Anchor where
  /-- The start of the text. -/
  | textStart
  /-- The end of the text. -/
  | textEnd
  /-- The start of a line. -/
  | lineStart
  /-- The end of a line. -/
  | lineEnd
  /-- A place between a word and what is not a word. -/
  | wordEdge
  /-- Any other place of a text that is not empty. -/
  | noWordEdge
deriving DecidableEq, Repr

/-- What a repetition tries first. -/
inductive Greed where
  /-- More before fewer. -/
  | greedy
  /-- Fewer before more. -/
  | lazy
  /-- As many as there are, and no fewer. -/
  | possessive
deriving DecidableEq, Repr

/-! ### Widths -/

/-- The least and the greatest number of characters that a pattern spans. -/
structure Width where
  /-- The least number. -/
  least : Nat := 0
  /-- The greatest number. -/
  most : Nat := 0
deriving DecidableEq, Repr

/-- The number that stands for no bound on a width. -/
def boundless : Nat := Nat.pow 2 64

namespace Width

/-- A width with both numbers cut off at the one that stands for no bound. -/
def cut (w : Width) : Width := ⟨min w.least boundless, min w.most boundless⟩

/-- The width of two patterns in a row. -/
def both (a b : Width) : Width := Width.cut ⟨a.least + b.least, a.most + b.most⟩

/-- The width of a choice. -/
def either (a b : Width) : Width := ⟨min a.least b.least, max a.most b.most⟩

/-- The width of a repetition. -/
def repeated (a : Width) (least : Nat) (most : Option Nat) : Width :=
  Width.cut ⟨a.least * least, match most with
    | some n => a.most * n
    | none => if a.most = 0 then 0 else boundless⟩

end Width
end Pattern

/-- A pattern. -/
inductive Pattern where
  /-- The empty text. -/
  | empty
  /-- One character. -/
  | char (test : Pattern.Test) (mode : Pattern.Mode)
  /-- A place. -/
  | anchor (a : Pattern.Anchor) (mode : Pattern.Mode)
  /-- Two patterns in a row. -/
  | both (first second : Pattern)
  /-- The first pattern or, failing that, the second. -/
  | either (first second : Pattern)
  /-- A pattern whose text is remembered as a group. -/
  | group (index : Nat) (body : Pattern)
  /-- The text of a group once more. -/
  | again (index : Nat) (mode : Pattern.Mode)
  /-- A pattern several times. -/
  | repeated (greed : Pattern.Greed) (least : Nat) (most : Option Nat) (body : Pattern)
  /-- A pattern whose first way to match is final. -/
  | atomic (body : Pattern)
  /-- A place that a match of the pattern follows, or does not. -/
  | ahead (negated : Bool) (body : Pattern)
  /-- A place that a match of the pattern precedes, or does not. -/
  | behind (width : Pattern.Width) (negated : Bool) (body : Pattern)
  /-- One of two patterns, by whether a group has a text. -/
  | given (index : Nat) (yes no : Pattern)

namespace Pattern

/-! ### Tests -/

/-- The lower-case form by which a mode compares characters without regard to case. -/
def Mode.fold (mode : Mode) : CodePoint → CodePoint
  | .char c => .char (if mode.ascii then c.toLower else lowerChar c)
  | .surrogate s => .surrogate s

/-- The code points that a mode holds to be the same without regard to case. -/
def Mode.variants (mode : Mode) : CodePoint → List Nat
  | .char c => if mode.ascii then [c.toLower.toNat, c.toUpper.toNat] else caseVariants c
  | .surrogate s => [s.code]

/-- The test for the characters of a class. -/
def Kind.test (ascii : Bool) : Kind → Char → Bool
  | digit => if ascii then isAsciiDigit else isDecimalDigit
  | blank => if ascii then isAsciiBlank else isBlank
  | word => if ascii then fun c => c.isAlphanum || c == '_' else isWordChar

/-- Whether a code point is of a class; no surrogate is. -/
def Kind.holds (ascii : Bool) (p : CodePoint) (k : Kind) : Bool := p.isChar (k.test ascii)

/-- Whether a character is a member of a set.  Without regard to case, the members of the basic
plane stand for all their variants, and those beyond it for themselves. -/
def Member.holds (mode : Mode) (p : CodePoint) (m : Member) : Bool :=
  let same : Nat → Bool := if mode.ignoreCase then (mode.variants p).contains else (· == p.code)
  match m with
  | code n => if 0xffff < n && mode.ignoreCase then n == (mode.fold p).code else same n
  | span first last =>
    if mode.ignoreCase then (mode.variants p).any fun n => first ≤ n && n ≤ last
    else first ≤ p.code && p.code ≤ last
  | kind k negated => k.holds mode.ascii (if mode.ignoreCase then mode.fold p else p) != negated

/-- Whether a character passes a test. -/
def Test.holds (mode : Mode) (p : CodePoint) : Test → Bool
  | any => mode.dotAll || p != .char '\n'
  | literal negated n =>
    (if mode.ignoreCase then (mode.variants p).contains n else n == p.code) != negated
  | oneOf negated members => members.any (·.holds mode p) != negated

end Pattern
end OfferRules

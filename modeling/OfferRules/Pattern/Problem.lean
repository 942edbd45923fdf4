import OfferRules.Pattern.Basic

/-!
# Problems of patterns

What may be wrong with the text of a pattern, and how a problem is reported: by its message, and
by the place in the pattern where it was found, with line and column if the pattern has several
lines.

## Main definitions

* `Pattern.Problem`, `Pattern.Problem.message` — the problems and their wording.
* `Pattern.Error` — a problem at a place, or a fault met while reading a pattern.
* `Pattern.report` — the wording with the place.
-/

namespace OfferRules.Pattern

/-- What is wrong with a pattern. -/
inductive Problem where
  /-- A backslash ends the pattern. -/
  | escapeAtEnd
  /-- A backslash stands before what it cannot escape. -/
  | badEscape (text : Text)
  /-- An escape by a number has too few digits. -/
  | shortEscape (text : Text)
  /-- An octal escape is too large. -/
  | octalRange (text : Text)
  /-- A name of a character is not in braces. -/
  | missingBrace
  /-- No character has the name. -/
  | unknownCharacter (name : Text)
  /-- A reference to a group that is still open. -/
  | openGroup
  /-- A reference inside a look behind to a group of the same look. -/
  | lookGroup
  /-- A reference to a group that does not exist. -/
  | noGroup (index : Nat)
  /-- Something that was expected is missing. -/
  | missing (what : String)
  /-- A name has no end. -/
  | openName (terminator : Char)
  /-- A text is no name of a group. -/
  | badName (name : Text)
  /-- No group has the name. -/
  | unknownName (name : Text)
  /-- Two groups have one name. -/
  | sameName (name : Text) (index earlier : Nat)
  /-- A group begins with an unknown extension. -/
  | unknownExtension (text : Text)
  /-- The pattern ends inside a group's beginning. -/
  | unexpectedEnd
  /-- A comment has no end. -/
  | openComment
  /-- A group has no end. -/
  | openParenthesis
  /-- A group ends that did not begin. -/
  | closedParenthesis
  /-- A set of characters has no end. -/
  | openSet
  /-- The ends of a span of characters are no characters, or out of order. -/
  | badSpan (first last : Text)
  /-- The least number of repetitions is above the greatest. -/
  | repeatOrder
  /-- There is nothing to repeat. -/
  | nothingToRepeat
  /-- A repetition is repeated. -/
  | multipleRepeat
  /-- A choice by a group has more than two branches. -/
  | threeBranches
  /-- Groups are numbered from one. -/
  | groupNumber
  /-- Flags for the whole pattern stand inside it. -/
  | lateFlags
  /-- The flag of the locale is none for texts. -/
  | localeFlag
  /-- Two flags for classes of characters. -/
  | clashingFlags
  /-- A letter is no flag. -/
  | unknownFlag
  /-- A flag of the whole pattern cannot be turned on for a part. -/
  | wholeFlagOn
  /-- A flag of the whole pattern cannot be turned off for a part. -/
  | wholeFlagOff
  /-- A flag for classes of characters cannot be turned off. -/
  | classFlagOff
  /-- A flag is turned on and off. -/
  | flagOnAndOff
  /-- A look behind spans texts of different lengths. -/
  | lookWidth
  /-- A look behind spans too long a text. -/
  | lookLength
  /-- A template repeats a part. -/
  | templateRepeat (greed : Greed)
deriving Repr

/-- The name by which a message calls a repetition. -/
def Greed.label : Greed → String
  | greedy => "MAX_REPEAT"
  | lazy => "MIN_REPEAT"
  | possessive => "POSSESSIVE_REPEAT"

/-- The wording of a problem. -/
def Problem.message : Problem → Text
  | escapeAtEnd => "bad escape (end of pattern)"
  | badEscape text => "bad escape " ++ text
  | shortEscape text => "incomplete escape " ++ text
  | octalRange text => "octal escape value " ++ text ++ " outside of range 0-0o377"
  | missingBrace => "missing \x7b"
  | unknownCharacter name => "undefined character name " ++ quoted name
  | openGroup => "cannot refer to an open group"
  | lookGroup => "cannot refer to group defined in the same lookbehind subpattern"
  | noGroup index => "invalid group reference " ++ toString index
  | missing what => "missing " ++ what
  | openName terminator => "missing " ++ String.singleton terminator ++ ", unterminated name"
  | badName name => "bad character in group name " ++ quoted name
  | unknownName name => "unknown group name " ++ quoted name
  | sameName name index earlier =>
    "redefinition of group name " ++ quoted name ++ " as group " ++ toString index ++
      "; was group " ++ toString earlier
  | unknownExtension text => "unknown extension ?" ++ text
  | unexpectedEnd => "unexpected end of pattern"
  | openComment => "missing ), unterminated comment"
  | openParenthesis => "missing ), unterminated subpattern"
  | closedParenthesis => "unbalanced parenthesis"
  | openSet => "unterminated character set"
  | badSpan first last => "bad character range " ++ first ++ "-" ++ last
  | repeatOrder => "min repeat greater than max repeat"
  | nothingToRepeat => "nothing to repeat"
  | multipleRepeat => "multiple repeat"
  | threeBranches => "conditional backref with more than two branches"
  | groupNumber => "bad group number"
  | lateFlags => "global flags not at the start of the expression"
  | localeFlag => "bad inline flags: cannot use 'L' flag with a str pattern"
  | clashingFlags => "bad inline flags: flags 'a', 'u' and 'L' are incompatible"
  | unknownFlag => "unknown flag"
  | wholeFlagOn => "bad inline flags: cannot turn on global flag"
  | wholeFlagOff => "bad inline flags: cannot turn off global flag"
  | classFlagOff => "bad inline flags: cannot turn off flags 'a', 'u' and 'L'"
  | flagOnAndOff => "bad inline flags: flag turned on and off"
  | lookWidth => "look-behind requires fixed-width pattern"
  | lookLength => "looks too much behind"
  | templateRepeat greed => "internal: unsupported template operator " ++ greed.label

/-- Why a text is no pattern. -/
inductive Error where
  /-- A problem of its form, at a place if it has one. -/
  | problem (p : Problem) (position : Option Nat)
  /-- A fault met while reading it. -/
  | fault (f : Fault)

/-- The line and the column of a place in a text, both counted from one. -/
def lineColumn (text : List CodePoint) (position : Nat) : Nat × Nat :=
  let before := text.take position
  (before.count (.char '\n') + 1, (before.reverse.takeWhile (· != .char '\n')).length + 1)

/-- The wording of a problem with its place in a pattern. -/
def report (text : List CodePoint) (p : Problem) (position : Option Nat) : Text :=
  match position with
  | none => p.message
  | some n =>
    let place := p.message ++ " at position " ++ toString n
    if text.contains (.char '\n') then
      let (line, column) := lineColumn text n
      place ++ " (line " ++ toString line ++ ", column " ++ toString column ++ ")"
    else place

end OfferRules.Pattern

import OfferRules.Pattern.Basic

/-!
# Searching texts for patterns

A match is found by trying, in order, the ways in which a pattern can go on from a place in a
text.  What the rest of the pattern needs is a function from the state reached to the final
state, so that a later failure makes an earlier choice go on to its next way.  A repetition that
spans nothing is not tried again.

## Main definitions

* `Pattern.State` — a place in a text with the groups found so far.
* `Pattern.run` — the first way in which a pattern and then the rest match.
* `Pattern.occursIn` — whether a pattern matches somewhere in a text.
-/

namespace OfferRules.Pattern

/-- A place in a text with the groups found so far. -/
structure State where
  /-- The place. -/
  place : Nat
  /-- Where groups were begun, the latest first. -/
  begun : List (Nat × Nat) := []
  /-- Where groups were ended, the latest first. -/
  ended : List (Nat × Nat) := []

/-- The rest of a match: the final state from the one reached, if there is one. -/
abbrev Rest := State → Option State

/-- A way to match: the first final state that it and the rest reach. -/
abbrev Matcher := Rest → Rest

namespace State

/-- The state at another place. -/
def at_ (s : State) (place : Nat) : State := { s with place }

/-- The bounds of the text of a group, if it has one. -/
def bounds? (s : State) (index : Nat) : Option (Nat × Nat) :=
  match s.begun.lookup index, s.ended.lookup index with
  | some first, some last => if first ≤ last then some (first, last) else none
  | _, _ => none

end State

/-! ### Places -/

/-- Whether the character before a place in a text is one of a word. -/
def wordBefore (text : Array CodePoint) (ascii : Bool) (place : Nat) : Bool :=
  place != 0 && (text[place - 1]?).any fun p => Kind.holds ascii p .word

/-- Whether the character after a place in a text is one of a word. -/
def wordAfter (text : Array CodePoint) (ascii : Bool) (place : Nat) : Bool :=
  (text[place]?).any fun p => Kind.holds ascii p .word

/-- Whether an anchor holds at a place in a text. -/
def Anchor.holds (text : Array CodePoint) (mode : Mode) (place : Nat) : Anchor → Bool
  | textStart => place == 0
  | textEnd => place == text.size
  | lineStart => place == 0 || (mode.everyLine && text[place - 1]? == some (.char '\n'))
  | lineEnd =>
    place == text.size ||
      (text[place]? == some (.char '\n') && (mode.everyLine || place + 1 == text.size))
  | wordEdge =>
    text.size != 0 && wordBefore text mode.ascii place != wordAfter text mode.ascii place
  | noWordEdge =>
    text.size != 0 && wordBefore text mode.ascii place == wordAfter text mode.ascii place

/-- Whether the characters of a text from one place on are those from another on, for a number
of characters. -/
def sameFrom (text : Array CodePoint) (mode : Mode) (a b : Nat) : Nat → Bool
  | 0 => true
  | count + 1 =>
    (match text[a]?, text[b]? with
      | some p, some q => if mode.ignoreCase then mode.fold p == mode.fold q else p == q
      | _, _ => false) && sameFrom text mode (a + 1) (b + 1) count

/-! ### Repetitions -/

/-- A way to match a number of times in a row. -/
def exactly (body : Matcher) : Nat → Matcher
  | 0, rest, s => rest s
  | count + 1, rest, s => body (exactly body count rest) s

/-- One repetition less, where there is a bound. -/
def oneLess : Option Nat → Option Nat := Option.map (· - 1)

/-- More repetitions before fewer, up to a bound. -/
def greedily (body : Matcher) (rest : Rest) : Nat → Option Nat → Rest
  | 0, _, s => rest s
  | fuel + 1, most, s =>
    if most = some 0 then rest s
    else
      (body (fun t => if t.place = s.place then rest t
        else greedily body rest fuel (oneLess most) t) s) <|> rest s

/-- Fewer repetitions before more, up to a bound. -/
def lazily (body : Matcher) (rest : Rest) : Nat → Option Nat → Rest
  | 0, _, s => rest s
  | fuel + 1, most, s =>
    rest s <|>
      (if most = some 0 then none
      else body (fun t => if t.place = s.place then rest t
        else lazily body rest fuel (oneLess most) t) s)

/-- As many repetitions as there are, up to a bound, each in its first way. -/
def possessively (body : Matcher) : Nat → Option Nat → State → State
  | 0, _, s => s
  | fuel + 1, most, s =>
    if most = some 0 then s
    else match body some s with
      | none => s
      | some t =>
        if t.place = s.place then t else possessively body fuel (oneLess most) t

/-- A number of repetitions, each in its first way. -/
def firstWays (body : Matcher) : Nat → Rest
  | 0, s => some s
  | count + 1, s => (body some s).bind (firstWays body count)

/-! ### Matching -/

/-- The first way in which a pattern and then the rest match. -/
def run (text : Array CodePoint) : Pattern → Matcher
  | empty, rest, s => rest s
  | char test mode, rest, s =>
    match text[s.place]? with
    | some c => if test.holds mode c then rest (s.at_ (s.place + 1)) else none
    | none => none
  | anchor a mode, rest, s => if a.holds text mode s.place then rest s else none
  | both p q, rest, s => run text p (fun t => run text q rest t) s
  | either p q, rest, s => run text p rest s <|> run text q rest s
  | group index body, rest, s =>
    run text body (fun t => rest { t with ended := (index, t.place) :: t.ended })
      { s with begun := (index, s.place) :: s.begun }
  | again index mode, rest, s =>
    match s.bounds? index with
    | some (first, last) =>
      if sameFrom text mode first s.place (last - first) then
        rest (s.at_ (s.place + (last - first)))
      else none
    | none => none
  | repeated greed least most body, rest, s =>
    let more := most.map (· - least)
    let fuel := text.size + 1
    match greed with
    | .greedy => exactly (run text body) least (greedily (run text body) rest fuel more) s
    | .lazy => exactly (run text body) least (lazily (run text body) rest fuel more) s
    | .possessive =>
      (firstWays (run text body) least s).bind fun t =>
        rest (possessively (run text body) fuel more t)
  | atomic body, rest, s => (run text body some s).bind rest
  | ahead negated body, rest, s =>
    match run text body some s with
    | some t => if negated then none else rest (t.at_ s.place)
    | none => if negated then rest s else none
  | behind width negated body, rest, s =>
    let found :=
      if width.least ≤ s.place then run text body some (s.at_ (s.place - width.least)) else none
    match found with
    | some t => if negated then none else rest (t.at_ s.place)
    | none => if negated then rest s else none
  | given index yes no, rest, s =>
    if (s.bounds? index).isSome then run text yes rest s else run text no rest s
termination_by structural p => p

/-- Whether a pattern matches from a place or one of a number of places before it. -/
def occursUpTo (p : Pattern) (text : Array CodePoint) : Nat → Bool
  | 0 => (run text p some { place := text.size }).isSome
  | count + 1 =>
    (run text p some { place := text.size - (count + 1) }).isSome || occursUpTo p text count

/-- Whether a pattern matches somewhere in a text. -/
def occursIn (p : Pattern) (text : List CodePoint) : Bool :=
  occursUpTo p text.toArray text.length

end OfferRules.Pattern

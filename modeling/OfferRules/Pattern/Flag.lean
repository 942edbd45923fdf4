import OfferRules.Pattern.Progress

/-!
# Flags in patterns

A group that begins with letters sets flags: for the whole pattern when nothing else is in the
group, else for the part in the group, where letters after a minus turn flags off.

## Main definitions

* `Pattern.Flag` — the flags.
* `Pattern.readFlags` — reads the letters of such a group.
* `Pattern.Flags.apply` — the mode that a group's flags make of the one around it.
-/

namespace OfferRules.Pattern

/-- A flag. -/
inductive Flag where
  /-- Letters are compared without regard to case. -/
  | ignoreCase
  /-- The classes of a locale, which texts do not have. -/
  | locale
  /-- Line anchors hold at every line. -/
  | everyLine
  /-- The dot accepts all characters. -/
  | dotAll
  /-- Blanks and comments are skipped. -/
  | verbose
  /-- The classes of ASCII. -/
  | ascii
  /-- The pattern is a template. -/
  | template
  /-- The classes of all characters. -/
  | unicode
deriving DecidableEq

/-- The flag that a letter names. -/
def flagOf? : Char → Option Flag
  | 'i' => some .ignoreCase
  | 'L' => some .locale
  | 'm' => some .everyLine
  | 's' => some .dotAll
  | 'x' => some .verbose
  | 'a' => some .ascii
  | 't' => some .template
  | 'u' => some .unicode
  | _ => none

/-- Whether a flag chooses the classes of characters. -/
def Flag.isClass : Flag → Bool
  | ascii | locale | unicode => true
  | _ => false

/-- The flags of a group: those turned on and those turned off. -/
structure Flags where
  /-- The flags turned on. -/
  on : List Flag := []
  /-- The flags turned off. -/
  off : List Flag := []

/-- The mode with flags turned on and off. -/
def Flags.apply (flags : Flags) (mode : Mode) : Mode :=
  let set (f : Flag) (before : Bool) : Bool :=
    (before || flags.on.contains f) && !flags.off.contains f
  { ignoreCase := set .ignoreCase mode.ignoreCase
    everyLine := set .everyLine mode.everyLine
    dotAll := set .dotAll mode.dotAll
    ascii := if flags.on.contains .ascii then true
      else if flags.on.contains .unicode then false else mode.ascii }

/-- Whether blanks are skipped in a group with flags. -/
def Flags.verbose (flags : Flags) (before : Bool) : Bool :=
  (before || flags.on.contains .verbose) && !flags.off.contains .verbose

/-- Whether a token is a letter. -/
def Token.isLetter : Token → Bool
  | .plain p => p.isChar OfferRules.isLetter
  | .escaped _ => false

/-- The flag that a token names; a letter that names none is unknown, and with any other token
something else is missing. -/
def flagAt (token : Token) (missing : String) : Reading Flag := do
  let named := match token with
    | .plain (.char c) => flagOf? c
    | _ => none
  match named with
  | some f => return f
  | none =>
    failAt ((← place) - token.length)
      (if token.isLetter then .unknownFlag else .missing missing)

/-- Reads the flags that are turned off, the first of them given. -/
def readOff : Nat → Flag → List Flag → Reading (List Flag)
  | 0, _, off => return off
  | fuel + 1, f, off => do
    if f.isClass then failAt (← place) .classFlagOff
    else
      match ← take? with
      | none => failAt (← place) (.missing ":")
      | some (.plain (.char ':')) => return f :: off
      | some token => readOff fuel (← flagAt token ":") (f :: off)

/-- Reads the flags that are turned on, the first of them given, and the token after them. -/
def readOn : Nat → Flag → List Flag → Reading (List Flag × Char)
  | 0, _, on => return (on, ')')
  | fuel + 1, f, on => do
    if f = .locale then failAt (← place) .localeFlag
    else if f.isClass && on.any fun g => g.isClass && g != f then
      failAt (← place) .clashingFlags
    else
      match ← take? with
      | none => failAt (← place) (.missing "-, : or )")
      | some (.plain (.char ')')) => return (f :: on, ')')
      | some (.plain (.char '-')) => return (f :: on, '-')
      | some (.plain (.char ':')) => return (f :: on, ':')
      | some token => readOn fuel (← flagAt token "-, : or )") (f :: on)

/-- Reads the flags that a minus turns off. -/
def readMinus (on : List Flag) : Reading Flags := do
  let off ← match ← take? with
    | none => failAt (← place) (.missing "flag")
    | some token => do
      let f ← flagAt token "flag"
      readOff ((← get).rest.length + 1) f []
  if off.contains .template then failAt ((← place) - 1) .wholeFlagOff
  else if on.any off.contains then failAt ((← place) - 1) .flagOnAndOff
  else return { on, off }

/-- Makes flags hold for the whole pattern. -/
def setForWhole (on : List Flag) : Reading Unit :=
  modify fun s =>
    let asciiAsked := s.asciiAsked || on.contains .ascii
    { s with
      verbose := s.verbose || on.contains .verbose
      asciiAsked
      unicodeAsked := s.unicodeAsked || on.contains .unicode
      template := s.template || on.contains .template
      mode := { Flags.apply { on } s.mode with ascii := asciiAsked } }

/-- Reads the flags of a group, the first letter or the minus given: none if they hold for the
whole pattern. -/
def readFlags (first : Option Flag) : Reading (Option Flags) := do
  match first with
  | none => return some (← readMinus [])
  | some f =>
    let (on, ended) ← readOn ((← get).rest.length + 1) f []
    if ended = ')' then
      setForWhole on
      return none
    else if on.contains .template then failAt ((← place) - 1) .wholeFlagOn
    else if ended = '-' then return some (← readMinus on)
    else return some { on }

end OfferRules.Pattern

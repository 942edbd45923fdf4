import OfferRules.Text.CharacterTable

/-!
# Names of characters

The standard names of characters, and the other names that some of them have.  Most names are in a
table, where they are compared without regard to case.  The names of unified ideographs and of the
syllables of Hangul follow rules and are in capitals.  A name of several characters in a row is the
name of none.

## Main definitions

* `NameRun.codeOf?` — the code point of a name in a run of the table.
* `ideographNamed?`, `syllableNamed?` — those of the names that follow rules.
* `characterNamed?` — the code point of the character with a name.
-/

namespace OfferRules

/-! ### The table -/

/-- The words of a name of a run, given those of the name before it. -/
def nameAfter (before : List String) (entry : String) : List String :=
  match entry.toList with
  | c :: more =>
    if c.isDigit then before.take (c.toNat - 48) ++ (String.ofList more).splitOn " "
    else entry.splitOn " "
  | [] => before

/-- The code point of a name among those from a code point on, given the name before them. -/
def codeAmong? (name : List String) : Nat → List String → List String → Option Nat
  | _, _, [] => none
  | n, before, entry :: rest =>
    let here := nameAfter before entry
    if entry ≠ "" && here == name then some n else codeAmong? name (n + 1) here rest

/-- The code point of a name in a run. -/
def NameRun.codeOf? (r : NameRun) (name : List String) : Option Nat :=
  codeAmong? name r.first [] (r.lines.flatMap (·.splitOn ","))

/-! ### Names by rules -/

/-- The text after a prefix. -/
def afterPrefix? (start : String) (cs : List Char) : Option (List Char) :=
  let start := start.toList
  if cs.take start.length = start then some (cs.drop start.length) else none

/-- The number of four or five digits of base sixteen in capitals. -/
def capitalHex? (cs : List Char) : Option Nat :=
  if 4 ≤ cs.length && cs.length ≤ 5 then
    cs.foldl (fun n c => n.bind fun n =>
      if '0' ≤ c && c ≤ '9' then some (16 * n + (c.toNat - 48))
      else if 'A' ≤ c && c ≤ 'F' then some (16 * n + (c.toNat - 55))
      else none) (some 0)
  else none

/-- Whether a code point lies in one of some blocks, given by their first and last ones. -/
def inBlocks (blocks : List (Nat × Nat)) (n : Nat) : Bool :=
  blocks.any fun b => b.1 ≤ n && n ≤ b.2

/-- The blocks of unified ideographs. -/
def ideographBlocks : List (Nat × Nat) :=
  [(0x3400, 0x4dbf), (0x4e00, 0x9fff), (0x20000, 0x2a6df), (0x2a700, 0x2b738),
    (0x2b740, 0x2b81d), (0x2b820, 0x2cea1), (0x2ceb0, 0x2ebe0), (0x30000, 0x3134a)]

/-- The code point of a unified ideograph, whose name gives its number. -/
def ideographNamed? (digits : List Char) : Option Nat :=
  (capitalHex? digits).filter (inBlocks ideographBlocks)

/-- Names in the table that end in the number of their character, with their blocks. -/
def numberedNames : List (String × List (Nat × Nat)) :=
  [("CJK COMPATIBILITY IDEOGRAPH-", [(0xf900, 0xfa6d), (0xfa70, 0xfad9), (0x2f800, 0x2fa1d)]),
    ("KHITAN SMALL SCRIPT CHARACTER-", [(0x18b00, 0x18cd5)]),
    ("NUSHU CHARACTER-", [(0x1b170, 0x1b2fb)])]

/-- The code point of a name that ends in the number of its character, without a zero more than it
needs. -/
def numberNamed? (name : List Char) : Option Nat :=
  numberedNames.findSome? fun (start, blocks) =>
    (afterPrefix? start name).bind fun digits =>
      (capitalHex? digits).filter fun n =>
        inBlocks blocks n && (digits.length == if n < 0x10000 then 4 else 5)

/-- The short names of the letters at the front, in the middle and at the end of syllables. -/
def syllableLetters : List String × List String × List String :=
  (["G", "GG", "N", "D", "DD", "R", "M", "B", "BB", "S", "SS", "", "J", "JJ", "C", "K", "T", "P",
      "H"],
    ["A", "AE", "YA", "YAE", "EO", "E", "YEO", "YE", "O", "WA", "WAE", "OE", "YO", "U", "WEO", "WE",
      "WI", "YU", "EU", "YI", "I"],
    ["", "G", "GG", "GS", "N", "NJ", "NH", "D", "L", "LG", "LM", "LB", "LS", "LT", "LP", "LH", "M",
      "B", "BS", "S", "SS", "NG", "J", "C", "K", "T", "P", "H"])

/-- The place of the longest of some letters at the front of a text, and the text after it. -/
def longestLetter? (letters : List String) (cs : List Char) : Option (Nat × List Char) :=
  ((letters.zipIdx.filterMap fun (letter, i) =>
    (afterPrefix? letter cs).map (i, ·)).mergeSort fun a b => a.2.length ≤ b.2.length).head?

/-- The code point of a syllable of Hangul, whose name is made of those of its letters. -/
def syllableNamed? (letters : List Char) : Option Nat := do
  let (fronts, middles, ends) := syllableLetters
  let (front, rest) ← longestLetter? fronts letters
  let (middle, rest) ← longestLetter? middles rest
  let (ending, rest) ← longestLetter? ends rest
  if rest.isEmpty then some (0xac00 + (front * middles.length + middle) * ends.length + ending)
  else none

/-! ### All names -/

/-- The code point of the character with a name: every character of Unicode 14 that has one is found
under it, and under its other names. -/
def characterNamed? (name : String) : Option Nat :=
  match afterPrefix? "HANGUL SYLLABLE " name.toList,
    afterPrefix? "CJK UNIFIED IDEOGRAPH-" name.toList with
  | some letters, _ => syllableNamed? letters
  | none, some digits => ideographNamed? digits
  | none, none =>
    let capitals := name.map Char.toUpper
    let words := capitals.splitOn " "
    ((nameRuns.findSome? (·.codeOf? words)).or
      ((nameAliases.find? (·.1 == capitals)).map (·.2))).or (numberNamed? capitals.toList)

end OfferRules

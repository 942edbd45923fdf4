import OfferRules.Text.Blank
import OfferRules.Text.LineEnd
import OfferRules.Text.Quoted

/-!
# Files of variables

A file of variables binds names to values, one in a line.  A value may stand in quotes, and then
may go over several lines; outside quotes a comment may follow it.  References to variables in a
value stand for the values bound before, or else for those of the environment.  Lines that are
not well formed are passed over.

## Main definitions

* `EnvFile.bindings` — the names of a file with their values as they are written.
* `EnvFile.expand` — a value with its references replaced.
* `EnvFile.read` — the variables of a file.
-/

namespace OfferRules.EnvFile

/-- Whether a character is a blank inside a line. -/
def isGap (c : Char) : Bool := isBlank c && c != '\n' && c != '\r'

/-- The text after the blanks at its front. -/
def skipGap (cs : List Char) : List Char := cs.dropWhile isGap

/-! ### Names -/

/-- The word that may stand before a binding. -/
def exportWord : List Char := "export".toList

/-- The text without the word before a binding. -/
def skipExport (cs : List Char) : List Char :=
  let rest := cs.drop exportWord.length
  if cs.take exportWord.length = exportWord && rest.head?.any isGap then skipGap rest else cs

/-- The name at the front with the text after it, or the text at which reading failed; there is
no name where a comment starts. -/
def name (cs : List Char) : Except (List Char) (Option (List Char) × List Char) :=
  match cs with
  | [] => .error cs
  | c :: rest =>
    if c = '#' then .ok (none, cs)
    else if c = apostrophe then
      let inner := rest.takeWhile (· != apostrophe)
      match rest.drop inner.length with
      | _ :: after => if inner.isEmpty then .error cs else .ok (some inner, after)
      | [] => .error cs
    else
      let word := cs.takeWhile fun c => c != '=' && c != '#' && !isBlank c
      if word.isEmpty then .error cs else .ok (some word, cs.drop word.length)

/-! ### Values -/

/-- The place of the quote that closes a text, if there is one: the first without a backslash
before it, or else the last one.  The places of those seen before, and whether a backslash stands
before the text, are given. -/
def closing? (quote : Char) (last : Option Nat) (place : Nat) (afterBackslash : Bool) :
    List Char → Option Nat
  | [] => last
  | c :: rest =>
    if c = quote then
      if afterBackslash then closing? quote (some place) (place + 1) false rest else some place
    else closing? quote last (place + 1) (c == '\\') rest

/-- The characters that may follow a backslash, with those that they then stand for. -/
def escapes : List (Char × Char) :=
  [('\\', '\\'), (apostrophe, apostrophe), (quotationMark, quotationMark), ('a', Char.ofNat 7),
    ('b', Char.ofNat 8), ('f', Char.ofNat 12), ('n', '\n'), ('r', '\r'), ('t', '\t'),
    ('v', Char.ofNat 11)]

/-- A text with its escapes replaced; between apostrophes there are only two of them. -/
def unescape (quote : Char) : List Char → List Char
  | '\\' :: c :: rest =>
    match escapes.lookup c with
    | some x =>
      if quote = quotationMark || c = '\\' || c = apostrophe then x :: unescape quote rest
      else '\\' :: unescape quote (c :: rest)
    | none => '\\' :: unescape quote (c :: rest)
  | c :: rest => c :: unescape quote rest
  | [] => []
termination_by cs => cs.length

/-- A value in a line without the comment after it. -/
def dropComment : List Char → List Char
  | [] => []
  | c :: rest =>
    if isBlank c && (rest.dropWhile isBlank).head? = some '#' then [] else c :: dropComment rest

/-- A value that stands in no quotes. -/
def plainValue (cs : List Char) : List Char × List Char :=
  let line := cs.takeWhile (· != '\n')
  (((dropComment line).reverse.dropWhile isBlank).reverse, cs.drop line.length)

/-- The value at the front with the text after it, or the text at which reading failed. -/
def value (cs : List Char) : Except (List Char) (List Char × List Char) :=
  match cs with
  | [] => .ok ([], [])
  | c :: rest =>
    if c = apostrophe || c = quotationMark then
      match closing? c none 0 false rest with
      | some n => .ok (unescape c (rest.take n), rest.drop (n + 1))
      | none => .error cs
    else .ok (plainValue cs)

/-- The text after a comment, if one stands at the front. -/
def skipComment (cs : List Char) : List Char :=
  let rest := skipGap cs
  if rest.head? = some '#' then rest.dropWhile (· != '\n') else cs

/-- The text after the end of the line, which must be reached. -/
def endLine (cs : List Char) : Except (List Char) (List Char) :=
  match skipGap cs with
  | [] => .ok []
  | '\n' :: rest => .ok rest
  | _ => .error cs

/-! ### Bindings -/

/-- A name with its value as it is written; a name may stand without a value. -/
abbrev Binding := List Char × Option (List Char)

/-- The binding in a line that starts with no blank, if it has one. -/
def binding (cs : List Char) : Except (List Char) (Option Binding × List Char) := do
  let (name, rest) ← name (skipExport cs)
  let (value, rest) ← match skipGap rest with
    | '=' :: rest => (value (skipGap rest)).map fun (v, rest) => (some v, rest)
    | rest => .ok (none, rest)
  let rest ← endLine (skipComment rest)
  return (name.map (·, value), rest)

/-- The bindings of a text; the last argument bounds the number of lines. -/
def bindingsFrom (cs : List Char) : Nat → List Binding
  | 0 => []
  | fuel + 1 =>
    match cs.dropWhile isBlank with
    | [] => []
    | cs =>
      match binding cs with
      | .ok (some b, rest) => b :: bindingsFrom rest fuel
      | .ok (none, rest) => bindingsFrom rest fuel
      | .error rest => bindingsFrom ((rest.dropWhile (· != '\n')).drop 1) fuel

/-- The bindings of a text. -/
def bindings (cs : List Char) : List Binding := bindingsFrom cs (cs.length + 1)

/-! ### References -/

/-- The name and the default of a reference after its opening brace, and the text after it. -/
def reference? (cs : List Char) : Option (List Char × List Char × List Char) :=
  let isEnd (c : Char) : Bool := c == Char.ofNat 0x7d
  let name := cs.takeWhile fun c => !isEnd c && c != ':'
  match cs.drop name.length with
  | ':' :: '-' :: rest =>
    let default := rest.takeWhile (!isEnd ·)
    match rest.drop default.length with
    | _ :: after => some (name, default, after)
    | [] => none
  | c :: after => if isEnd c then some (name, [], after) else none
  | [] => none

/-- A value with its references replaced, given the values of variables; the last argument bounds
the number of characters. -/
def expandFrom (known : String → Option String) (cs : List Char) : Nat → List Char
  | 0 => cs
  | fuel + 1 =>
    match cs with
    | [] => []
    | c :: rest =>
      let found := if c = '$' && rest.head? = some (Char.ofNat 0x7b) then
          reference? (rest.drop 1)
        else none
      match found with
      | some (name, default, after) =>
        ((known (String.ofList name)).getD (String.ofList default)).toList ++
          expandFrom known after fuel
      | none => c :: expandFrom known rest fuel

/-- A value with its references replaced. -/
def expand (known : String → Option String) (cs : List Char) : List Char :=
  expandFrom known cs cs.length

/-! ### Variables -/

/-- Variables with their values, in order; a variable may have none. -/
abbrev Variables := List (String × Option String)

/-- Variables with one set: in its place if it is there, else at the end. -/
def setVariable (name : String) (value : Option String) : Variables → Variables
  | [] => [(name, value)]
  | (n, v) :: rest =>
    if n = name then (n, value) :: rest else (n, v) :: setVariable name value rest

/-- The variables of a file in an environment. -/
def read (environment : List (String × String)) (file : String) : Variables :=
  (bindings (plainLineEnds file.toList)).foldl (fun found b =>
    let known (name : String) : Option String :=
      match found.lookup name with
      | some v => some (v.getD "")
      | none => environment.lookup name
    setVariable (String.ofList b.1)
      (b.2.map fun cs => String.ofList (expand known cs)) found) []

end OfferRules.EnvFile

import OfferRules.Json.Writer
import OfferRules.Number.Whole

/-!
# Reading JSON

A JSON document as a value.  Numbers without a point or an exponent are whole numbers, all
others are doubles, and the names of the infinities and of not-a-number are accepted.  Of equal
keys of an object the last value counts, at the place of the first.  A reader may be bounded in how
deep it follows lists and objects that stand one within another.

A document is a sequence of code points.  An escape gives a unit of UTF-16, and two escapes of
surrogates in a row that make a pair are one character; any other surrogate stays in the text.

## Main definitions

* `Json.joinUnits` — code points from units, surrogates joined in pairs.
* `Json.Problem` — why a text gives no value.
* `Json.readValue` — a value at the front of a text, and the text after it.
* `Json.read` — the value of a whole text, read to some depth.
* `Json.read?` — the value of a whole text, however deep it is.
-/

namespace OfferRules.Json

/-- Whether a character may stand between tokens. -/
def isGap (c : Char) : Bool := c == ' ' || c == '\t' || c == '\n' || c == '\r'

/-- A text without the gap at its front. -/
def skipGap (ps : List CodePoint) : List CodePoint := ps.dropWhile (CodePoint.isChar isGap)

/-! ### Texts -/

/-- A piece of a text: a code point as it stands, or the unit of UTF-16 that an escape gives. -/
inductive Piece where
  /-- A code point. -/
  | point (p : CodePoint)
  /-- A unit. -/
  | unit (n : Nat)
deriving DecidableEq, Repr

/-- The code points of pieces: the units of a high surrogate and of a low one after it are one
character. -/
def joinUnits : List Piece → List CodePoint
  | .unit n :: .unit m :: rest =>
    if 0xd800 ≤ n && n < 0xdc00 && 0xdc00 ≤ m && m < 0xe000 then
      .char (Char.ofNat (0x10000 + (n - 0xd800) * 0x400 + (m - 0xdc00))) :: joinUnits rest
    else .ofCode n :: joinUnits (.unit m :: rest)
  | .unit n :: rest => .ofCode n :: joinUnits rest
  | .point p :: rest => p :: joinUnits rest
  | [] => []

/-- The character that an escape of one letter stands for. -/
def shortEscape? (c : Char) : Option Nat :=
  if c = quotationMark || c = '\\' || c = '/' then some c.toNat
  else if c = 'b' then some 8
  else if c = 'f' then some 12
  else if c = 'n' then some 10
  else if c = 'r' then some 13
  else if c = 't' then some 9
  else none

/-- The number that four digits of base sixteen write. -/
def fourHex? (a b c d : Char) : Option Nat :=
  [a, b, c, d].foldl (fun n x => n.bind fun n => (digitIn? 16 x).map fun y => 16 * n + y) (some 0)

/-- The pieces of a text up to its closing quotation mark, after those found before, the last
first; and the text after it. -/
def readPieces (found : List Piece) : List CodePoint → Option (List Piece × List CodePoint)
  | [] => none
  | .char '\\' :: .char 'u' :: .char a :: .char b :: .char c :: .char d :: rest =>
    match fourHex? a b c d with
    | some n => readPieces (.unit n :: found) rest
    | none => none
  | .char '\\' :: .char c :: rest =>
    match shortEscape? c with
    | some n => readPieces (.unit n :: found) rest
    | none => none
  | .char c :: rest =>
    if c = quotationMark then some (found.reverse, rest)
    else if c.toNat < 0x20 || c = '\\' then none
    else readPieces (.point (.char c) :: found) rest
  | .surrogate s :: rest => readPieces (.point (.surrogate s) :: found) rest

/-- A text after its opening quotation mark. -/
def readText? (ps : List CodePoint) : Option (Text × List CodePoint) :=
  (readPieces [] ps).map fun (pieces, rest) => (.ofPoints (joinUnits pieces), rest)

/-! ### Numbers -/

/-- The digits at the front of a text. -/
def digitsAt : List CodePoint → List Char
  | .char c :: rest => if isAsciiDigit c then c :: digitsAt rest else []
  | _ => []

/-- The digits of the whole part of a number: a zero stands alone. -/
def wholeDigits : List CodePoint → List Char
  | .char '0' :: _ => ['0']
  | ps => digitsAt ps

/-- The digits of a fraction with their point. -/
def fractionPart : List CodePoint → List Char
  | .char '.' :: rest =>
    match digitsAt rest with
    | [] => []
    | digits => '.' :: digits
  | _ => []

/-- An exponent with its letter. -/
def exponentPart : List CodePoint → List Char
  | .char e :: rest =>
    if e = 'e' || e = 'E' then
      let sign := match rest with
        | .char '+' :: _ => ['+']
        | .char '-' :: _ => ['-']
        | _ => []
      match digitsAt (rest.drop sign.length) with
      | [] => []
      | digits => e :: sign ++ digits
    else []
  | _ => []

/-- A number at the front of a text without sign, and the text after it. -/
def readNumber? (negative : Bool) (ps : List CodePoint) : Option (Value × List CodePoint) :=
  let whole := wholeDigits ps
  if whole.isEmpty then none
  else
    let rest := ps.drop whole.length
    let fraction := fractionPart rest
    let rest := rest.drop fraction.length
    let exponent := exponentPart rest
    let rest := rest.drop exponent.length
    if fraction.isEmpty && exponent.isEmpty then
      if numeralLimit < whole.length then none
      else
        let n : Int := natOfDigits whole
        some (.int (if negative then -n else n), rest)
    else
      (Decimal.parse? (whole ++ fraction ++ exponent)).map fun d =>
        (.double (d.toDouble negative), rest)

/-- What is read as a number is a double, or a whole number of no more digits than are read; and an
end of the text is left. -/
theorem readNumber?_cases {negative : Bool} {ps rest : List CodePoint} {v : Value}
    (h : readNumber? negative ps = some (v, rest)) :
    rest <:+ ps ∧ ((∃ d, v = .double d) ∨ (wholeDigits ps).length ≤ numeralLimit ∧
      v = .int (if negative then -(natOfDigits (wholeDigits ps) : Int)
        else natOfDigits (wholeDigits ps))) := by
  have hdrop : ∀ i j k, ((ps.drop i).drop j).drop k <:+ ps := fun i j k =>
    (List.drop_suffix k _).trans ((List.drop_suffix j _).trans (List.drop_suffix i ps))
  unfold readNumber? at h
  dsimp only at h
  split at h
  · exact nomatch h
  · split at h
    · split at h
      · exact nomatch h
      · next hlong =>
        obtain ⟨rfl, rfl⟩ := Prod.mk.inj (Option.some.inj h)
        exact ⟨hdrop _ _ _, Or.inr ⟨Nat.le_of_not_lt hlong, rfl⟩⟩
    · obtain ⟨d, -, hd⟩ := Option.map_eq_some_iff.mp h
      obtain ⟨rfl, rfl⟩ := Prod.mk.inj hd
      exact ⟨hdrop _ _ _, Or.inl ⟨_, rfl⟩⟩

/-! ### Values -/

/-- The names that stand for values, with those values. -/
def names : List (Text × Value) :=
  [("null", .null), ("true", .bool true), ("false", .bool false), ("NaN", .double .nan),
    ("Infinity", .double (.infinite false)), ("-Infinity", .double (.infinite true))]

/-- The text after a word at its front. -/
def afterWord? (word : List CodePoint) (ps : List CodePoint) : Option (List CodePoint) :=
  if ps.take word.length = word then some (ps.drop word.length) else none

/-- A value that is no text and no container, at the front of a text. -/
def readPlain? (ps : List CodePoint) : Option (Value × List CodePoint) :=
  let named := names.findSome? fun (word, v) => (afterWord? word.points ps).map (v, ·)
  named.or (match ps with
    | .char '-' :: rest => readNumber? true rest
    | _ => readNumber? false ps)

/-- What is read without parts stands under a name or is a number, and an end of the text is
left. -/
theorem readPlain?_cases {ps rest : List CodePoint} {v : Value}
    (h : readPlain? ps = some (v, rest)) :
    rest <:+ ps ∧ ((∃ word, (word, v) ∈ names) ∨
      ∃ negative digits, readNumber? negative digits = some (v, rest)) := by
  unfold readPlain? at h
  rcases Option.or_eq_some_iff.mp h with hname | ⟨-, hnumber⟩
  · obtain ⟨⟨word, w⟩, hmem, hword⟩ := List.exists_of_findSome?_eq_some hname
    obtain ⟨after, hafter, heq⟩ := Option.map_eq_some_iff.mp hword
    obtain ⟨rfl, rfl⟩ := Prod.mk.inj heq
    unfold afterWord? at hafter
    split at hafter
    · obtain rfl := Option.some.inj hafter
      exact ⟨List.drop_suffix _ _, Or.inl ⟨word, hmem⟩⟩
    · exact nomatch hafter
  · split at hnumber
    · exact ⟨(readNumber?_cases hnumber).1.trans (List.suffix_cons _ _), Or.inr ⟨_, _, hnumber⟩⟩
    · exact ⟨(readNumber?_cases hnumber).1, Or.inr ⟨_, _, hnumber⟩⟩

/-- Why a text gives no value. -/
inductive Problem where
  /-- It is no JSON document. -/
  | malformed
  /-- A list, or an object, is met deeper than may be followed. -/
  | nesting (object : Bool)
deriving DecidableEq, Repr

/-- What is read, if it is there. -/
def Problem.ofOption {α : Type} : Option α → Except Problem α
  | some a => .ok a
  | none => .error malformed

mutual

/-- A value at the front of a text, and the text after it, where lists and objects may be entered to
some depth. -/
def readValue : Nat → Nat → List CodePoint → Except Problem (Value × List CodePoint)
  | 0, _, _ => .error .malformed
  | fuel + 1, depth, ps =>
    match ps with
    | .char '[' :: rest =>
      match depth with
      | 0 => .error (.nesting false)
      | depth + 1 =>
        match skipGap rest with
        | .char ']' :: rest => .ok (.list [], rest)
        | rest => (readItems fuel depth [] rest).map fun (vs, rest) => (.list vs, rest)
    | p :: rest =>
      if p = .char quotationMark then
        Problem.ofOption ((readText? rest).map fun (t, rest) => (.text t, rest))
      else if p = .char (Char.ofNat 0x7b) then
        match depth with
        | 0 => .error (.nesting true)
        | depth + 1 =>
          match skipGap rest with
          | [] => .error .malformed
          | q :: more =>
            if q = .char (Char.ofNat 0x7d) then .ok (.map [], more)
            else (readMembers fuel depth [] (q :: more)).map fun (es, rest) => (.map es, rest)
      else Problem.ofOption (readPlain? (p :: rest))
    | [] => .error .malformed

/-- The items of a list up to its closing bracket, after those found before, the last first. -/
def readItems :
    Nat → Nat → List Value → List CodePoint → Except Problem (List Value × List CodePoint)
  | 0, _, _, _ => .error .malformed
  | fuel + 1, depth, found, ps =>
    match readValue fuel depth ps with
    | .error p => .error p
    | .ok (v, rest) =>
      match skipGap rest with
      | .char ',' :: rest => readItems fuel depth (v :: found) (skipGap rest)
      | .char ']' :: rest => .ok ((v :: found).reverse, rest)
      | _ => .error .malformed

/-- The members of an object up to its closing brace, after those found before, the last first. -/
def readMembers :
    Nat → Nat → List (Atom × Value) → List CodePoint → Except Problem (Entries × List CodePoint)
  | 0, _, _, _ => .error .malformed
  | fuel + 1, depth, found, ps =>
    match ps with
    | [] => .error .malformed
    | p :: rest =>
      if p ≠ .char quotationMark then .error .malformed
      else match readText? rest with
        | none => .error .malformed
        | some (key, rest) =>
          match skipGap rest with
          | .char ':' :: rest =>
            match readValue fuel depth (skipGap rest) with
            | .error p => .error p
            | .ok (v, rest) =>
              let found := (Atom.text key, v) :: found
              match skipGap rest with
              | .char ',' :: rest => readMembers fuel depth found (skipGap rest)
              | q :: rest =>
                if q = .char (Char.ofNat 0x7d) then .ok (Entries.ofList found.reverse, rest)
                else .error .malformed
              | [] => .error .malformed
          | _ => .error .malformed

end

/-- The value of a whole text, if it is a JSON document in which lists and objects stand one within
another to no more than some depth. -/
def read (depth : Nat) (ps : List CodePoint) : Except Problem Value :=
  match readValue (2 * ps.length + 2) depth (skipGap ps) with
  | .ok (v, rest) => if (skipGap rest).isEmpty then .ok v else .error .malformed
  | .error p => .error p

/-- The value of a whole text, if it is a JSON document.  No text is as deep as it is long. -/
def read? (ps : List CodePoint) : Option Value := (read (ps.length + 1) ps).toOption

theorem read?_eq_some {ps : List CodePoint} {v : Value} :
    read? ps = some v ↔ read (ps.length + 1) ps = .ok v := by
  unfold read?
  cases read (ps.length + 1) ps <;> simp [Except.toOption]

end OfferRules.Json

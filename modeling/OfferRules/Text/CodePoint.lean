/-!
# Texts of code points

A text is a sequence of code points.  Most code points are characters.  The surrogates are not:
UTF-16 writes a character beyond the basic plane as a pair of them, and an escape or an encoding
may leave one of a pair by itself.  A text with such a surrogate is *torn*.

A text is kept as the strings between its surrogates, so a text that is not torn is a string, and
each sequence of code points is one text.

## Main definitions

* `Surrogate`, `CodePoint` — code points.
* `Text` — texts; strings are texts.
* `Text.points`, `Text.ofPoints` — the code points of a text, and the text of code points.
* `Text.isTorn` — whether there is a surrogate in a text.
* `Text.append`, `Text.joined` — one text after another, and texts joined by a separator.
* `Text.shown` — a text with its surrogates replaced.
-/

namespace OfferRules

/-- A surrogate, by its place among them. -/
abbrev Surrogate := Fin 0x800

/-- The code of a surrogate. -/
def Surrogate.code (s : Surrogate) : Nat := 0xd800 + s.val

/-- A code point. -/
inductive CodePoint where
  /-- A character. -/
  | char (c : Char)
  /-- A surrogate, which is no character. -/
  | surrogate (s : Surrogate)
deriving DecidableEq, Repr

instance : Coe Char CodePoint := ⟨.char⟩

namespace CodePoint

/-- The number of a code point. -/
def code : CodePoint → Nat
  | char c => c.toNat
  | surrogate s => s.code

/-- The code point of a number. -/
def ofCode (n : Nat) : CodePoint :=
  if h : 0xd800 ≤ n ∧ n < 0xe000 then .surrogate ⟨n - 0xd800, by omega⟩ else .char (Char.ofNat n)

/-- Whether a code point is a character that passes a test. -/
def isChar (test : Char → Bool) : CodePoint → Bool
  | char c => test c
  | surrogate _ => false

end CodePoint

/-- A text. -/
inductive Text where
  /-- A string, without surrogates. -/
  | whole (s : String)
  /-- A string, a surrogate, and what is after it. -/
  | torn (before : String) (surrogate : Surrogate) (after : Text)
deriving DecidableEq, Repr

instance : Coe String Text := ⟨.whole⟩

instance : Inhabited Text := ⟨.whole ""⟩

namespace Text

/-- The code points of a text. -/
def points : Text → List CodePoint
  | whole s => s.toList.map .char
  | torn before s after => before.toList.map .char ++ .surrogate s :: after.points

@[simp] theorem points_whole (s : String) : (whole s).points = s.toList.map .char := rfl

/-- The text of code points after some characters, the last of these first. -/
def ofPointsAfter (before : List Char) : List CodePoint → Text
  | [] => whole (String.ofList before.reverse)
  | .char c :: rest => ofPointsAfter (c :: before) rest
  | .surrogate s :: rest => torn (String.ofList before.reverse) s (ofPointsAfter [] rest)

/-- The text of code points. -/
def ofPoints (ps : List CodePoint) : Text := ofPointsAfter [] ps

theorem points_ofPointsAfter (before : List Char) (ps : List CodePoint) :
    (ofPointsAfter before ps).points = before.reverse.map .char ++ ps := by
  induction ps generalizing before with
  | nil => simp [ofPointsAfter]
  | cons p rest ih => cases p <;> simp [ofPointsAfter, points, ih]

@[simp] theorem points_ofPoints (ps : List CodePoint) : (ofPoints ps).points = ps :=
  points_ofPointsAfter [] ps

theorem ofPointsAfter_chars (before cs : List Char) (rest : List CodePoint) :
    ofPointsAfter before (cs.map .char ++ rest) = ofPointsAfter (cs.reverse ++ before) rest := by
  induction cs generalizing before with
  | nil => rfl
  | cons c cs ih => simp [ofPointsAfter, ih]

/-- A text is that of its code points. -/
@[simp] theorem ofPoints_points (t : Text) : ofPoints t.points = t := by
  induction t with
  | whole s => simpa [ofPoints, ofPointsAfter] using ofPointsAfter_chars [] s.toList []
  | torn before s after ih =>
    unfold ofPoints at ih
    simp [points, ofPoints, ofPointsAfter_chars, ofPointsAfter, ih]

/-- Texts of the same code points are the same. -/
theorem points_injective {t u : Text} (h : t.points = u.points) : t = u := by
  rw [← ofPoints_points t, h, ofPoints_points]

/-- One text after another. -/
def append : Text → Text → Text
  | whole s, whole t => whole (s ++ t)
  | whole s, torn before x after => torn (s ++ before) x after
  | torn before x after, t => torn before x (append after t)

instance : Append Text := ⟨append⟩

@[simp] theorem whole_append (s t : String) : (whole s ++ whole t : Text) = whole (s ++ t) := rfl

theorem torn_append (before : String) (s : Surrogate) (after t : Text) :
    torn before s after ++ t = torn before s (after ++ t) := rfl

@[simp] theorem points_append (t u : Text) : (t ++ u).points = t.points ++ u.points := by
  induction t with
  | whole s =>
    cases u with
    | whole t => simp [points]
    | torn before x after =>
      show (torn (s ++ before) x after).points = _
      simp [points]
  | torn before s after ih => simp [torn_append, points, ih]

/-- Whether there is a surrogate in a text. -/
def isTorn : Text → Bool
  | whole _ => false
  | torn _ _ _ => true

@[simp] theorem isTorn_append (t u : Text) : (t ++ u).isTorn = (t.isTorn || u.isTorn) := by
  cases t with
  | whole s => cases u <;> rfl
  | torn before s after => rfl

/-- Texts with a separator between them. -/
def joined (separator : Text) : List Text → Text
  | [] => whole ""
  | [t] => t
  | t :: rest => t ++ separator ++ joined separator rest

/-- The code points of joined texts, the first of them with others behind it. -/
theorem points_joined_cons {separator t : Text} {ts : List Text} (h : ts ≠ []) :
    (joined separator (t :: ts)).points
      = t.points ++ (separator.points ++ (joined separator ts).points) := by
  rw [joined, points_append, points_append, List.append_assoc]
  exact h

/-- The code points of joined texts are those of the texts, with the separator's between them. -/
theorem points_joined (separator : Text) (ts : List Text) :
    (joined separator ts).points = separator.points.intercalate (ts.map points) := by
  fun_induction joined separator ts with
  | case1 => rfl
  | case2 t => simp
  | case3 t rest hne ih =>
    rw [points_append, points_append, ih, List.map_cons,
      List.intercalate_cons_of_ne_nil (by simpa using hne)]

/-- A text as a string, with each surrogate replaced by the three marks that stand for its bytes. -/
def shown : Text → String
  | whole s => s
  | torn before _ after =>
    before ++ String.ofList (List.replicate 3 (Char.ofNat 0xfffd)) ++ after.shown

end Text
end OfferRules

import OfferRules.Number.Decimal

/-!
# Numbers of a document

A document writes whole numbers of any size and doubles, and keeps the two kinds apart.  They
are compared by their exact values: a number has a `Place` on the line extended by its two
ends, and not-a-number has none, so no comparison with it holds.

## Main definitions

* `Number` — a whole number or a double.
* `Place` — the extended line in units of `2 ^ -1074`, with its order.
* `Number.lt`, `Number.le`, `Number.eq` — comparison by exact value.
-/

namespace OfferRules

/-- A number: a whole number of any size, or a double. -/
inductive Number where
  /-- A whole number. -/
  | int (n : Int)
  /-- A double. -/
  | double (d : Double)
deriving DecidableEq

/-! ### The extended line -/

/-- A place on the line of exact values, extended by its two ends. -/
inductive Place where
  /-- Below every finite value. -/
  | bottom
  /-- A whole number of units of `2 ^ -1074`. -/
  | units (n : Int)
  /-- Above every finite value. -/
  | top
deriving DecidableEq

namespace Place

/-- The order of the extended line. -/
def le : Place → Place → Bool
  | bottom, _ => true
  | _, top => true
  | units a, units b => decide (a ≤ b)
  | _, _ => false

/-- The strict order of the extended line. -/
def lt (a b : Place) : Bool := !le b a

end Place

/-- The place of a double; not-a-number has none. -/
def Double.place? : Double → Option Place
  | .nan => none
  | .infinite negative => some (if negative then .bottom else .top)
  | .finite negative size => some (.units (if negative then -(size.units : Int) else size.units))

/-- `a < b` for doubles. -/
def Double.lt (a b : Double) : Bool :=
  match a.place?, b.place? with
  | some p, some q => p.lt q
  | _, _ => false

/-- `a ≤ b` for doubles. -/
def Double.le (a b : Double) : Bool :=
  match a.place?, b.place? with
  | some p, some q => p.le q
  | _, _ => false

theorem Double.lt_congr {a a' b b' : Double} (ha : a.place? = a'.place?)
    (hb : b.place? = b'.place?) : a.lt b = a'.lt b' := by
  rw [lt, lt, ha, hb]

theorem Double.le_congr {a a' b b' : Double} (ha : a.place? = a'.place?)
    (hb : b.place? = b'.place?) : a.le b = a'.le b' := by
  rw [le, le, ha, hb]

namespace Number

/-- The place of a number by its exact value; not-a-number has none. -/
def place? : Number → Option Place
  | int n => some (.units (n * Magnitude.perOne))
  | double d => d.place?

theorem place?_isSome {n : Number} (h : n ≠ .double .nan) : n.place?.isSome = true := by
  cases n with
  | int n => rfl
  | double d =>
    cases d with
    | nan => exact absurd rfl h
    | infinite negative => rfl
    | finite negative size => rfl

/-- `a < b` by exact value. -/
def lt (a b : Number) : Bool :=
  match a.place?, b.place? with
  | some p, some q => p.lt q
  | _, _ => false

/-- `a ≤ b` by exact value. -/
def le (a b : Number) : Bool :=
  match a.place?, b.place? with
  | some p, some q => p.le q
  | _, _ => false

theorem lt_congr {m m' n n' : Number} (hm : m.place? = m'.place?) (hn : n.place? = n'.place?) :
    m.lt n = m'.lt n' := by
  rw [lt, lt, hm, hn]

theorem le_congr {m m' n n' : Number} (hm : m.place? = m'.place?) (hn : n.place? = n'.place?) :
    m.le n = m'.le n' := by
  rw [le, le, hm, hn]

/-- Equality by exact value; not-a-number equals nothing. -/
def eq (a b : Number) : Bool :=
  match a.place?, b.place? with
  | some p, some q => p == q
  | _, _ => false

/-- Whether a number is zero. -/
def isZero : Number → Bool
  | int n => n == 0
  | double d => d.isZero

/-- The nearest double; a whole number of `2 ^ 1024` or more has none. -/
def toDouble? : Number → Option Double
  | int n => Double.ofInt? n
  | double d => some d

/-- The sum: exact for whole numbers, else that of the nearest doubles, unless one has none. -/
def add? : Number → Number → Option Number
  | int a, int b => some (int (a + b))
  | a, b =>
    match a.toDouble?, b.toDouble? with
    | some x, some y => some (double (x + y))
    | _, _ => none

/-- The plain text of a number. -/
def text : Number → String
  | int n => toString n
  | double d => d.text

instance (n : Nat) : OfNat Number n := ⟨.int n⟩

end Number
end OfferRules

/-!
# Double-precision numbers

A double is not-a-number, an infinity, or a signed magnitude.  Magnitudes are counted in
*units* of `2 ^ -1074`, the least positive double: every finite double is a whole number of
units with at most 53 significant binary digits, so exact arithmetic on doubles is arithmetic
on natural numbers, and the only approximation is `Magnitude.nearest?`.

## Main definitions

* `roundHalfEven num den` — the whole number nearest to a quotient, ties to even.
* `Magnitude` — the finite magnitudes; `Magnitude.nearest? num den` is the one nearest to
  `num / den` units, and there is none when that is `2 ^ 1024` or more.
* `Double` — the doubles, with `ofUnits`, `ofInt?`, `add`, `mul` and `div`.
-/

namespace OfferRules

/-! ### Rounding a quotient -/

/-- The whole number nearest to `num / den`; a half goes to the even neighbour. -/
def roundHalfEven (num den : Nat) : Nat :=
  let q := num / den
  let r := num % den
  if 2 * r < den then q else if den < 2 * r then q + 1 else q + q % 2

theorem roundHalfEven_le_succ (num den : Nat) : roundHalfEven num den ≤ num / den + 1 := by
  unfold roundHalfEven
  dsimp only
  split
  · omega
  · split <;> omega

theorem le_roundHalfEven (num den : Nat) : num / den ≤ roundHalfEven num den := by
  unfold roundHalfEven
  dsimp only
  split
  · omega
  · split <;> omega

/-- How many binary digits of `n` lie beyond the leading 53. -/
def excessBits (n : Nat) : Nat := n.log2 + 1 - 53

theorem div_excessBits_lt (n : Nat) : n / Nat.pow 2 (excessBits n) < Nat.pow 2 53 := by
  have h : n < Nat.pow 2 (n.log2 + 1) := Nat.lt_log2_self
  have h' : Nat.pow 2 (n.log2 + 1) ≤ Nat.pow 2 (53 + excessBits n) :=
    Nat.pow_le_pow_right (by decide) (by unfold excessBits; omega)
  have h'' : Nat.pow 2 (53 + excessBits n) = Nat.pow 2 53 * Nat.pow 2 (excessBits n) :=
    Nat.pow_add 2 53 (excessBits n)
  have positive : 0 < Nat.pow 2 (excessBits n) := Nat.two_pow_pos _
  refine (Nat.div_lt_iff_lt_mul positive).mpr ?_
  rw [← h'']
  exact Nat.lt_of_lt_of_le h h'

/-! ### Finite magnitudes -/

/-- The number of units in one. -/
def Magnitude.perOne : Nat := Nat.pow 2 1074

/-- The number of units in `2 ^ 1024`, which every finite magnitude is below. -/
def Magnitude.bound : Nat := Nat.pow 2 2098

theorem Magnitude.bound_pos : 0 < Magnitude.bound := by
  unfold Magnitude.bound
  generalize 2098 = n
  exact Nat.two_pow_pos n

/-- The magnitude of a finite double, as a whole number of units of `2 ^ -1074`. -/
structure Magnitude where
  /-- How many units of `2 ^ -1074`. -/
  units : Nat
  /-- At most 53 significant binary digits. -/
  onGrid : ∃ m e, m < Nat.pow 2 53 ∧ units = m * Nat.pow 2 e
  /-- Below `2 ^ 1024`. -/
  units_lt : units < Magnitude.bound
deriving DecidableEq

namespace Magnitude

/-- The magnitude of zero. -/
def zero : Magnitude := ⟨0, ⟨0, 0, by decide, rfl⟩, bound_pos⟩

theorem onGrid_of_le {m e : Nat} (h : m ≤ Nat.pow 2 53) :
    ∃ m' e', m' < Nat.pow 2 53 ∧ m * Nat.pow 2 e = m' * Nat.pow 2 e' := by
  by_cases hm : m < Nat.pow 2 53
  · exact ⟨m, e, hm, rfl⟩
  · obtain rfl : m = Nat.pow 2 53 := Nat.le_antisymm h (Nat.le_of_not_lt hm)
    refine ⟨Nat.pow 2 52, e + 1, by decide, ?_⟩
    show Nat.pow 2 53 * Nat.pow 2 e = Nat.pow 2 52 * (Nat.pow 2 e * 2)
    generalize Nat.pow 2 e = x
    simp only [Nat.pow_eq]
    omega

theorem rounded_le (num den : Nat) :
    roundHalfEven num (den * Nat.pow 2 (excessBits (num / den))) ≤ Nat.pow 2 53 := by
  have h := roundHalfEven_le_succ num (den * Nat.pow 2 (excessBits (num / den)))
  rw [← Nat.div_div_eq_div_mul] at h
  have h' := div_excessBits_lt (num / den)
  omega

/-- The magnitude nearest to `num / den` units, ties going to the even significand; none when
that is `2 ^ 1024` or more. -/
def nearest? (num den : Nat) : Option Magnitude :=
  let e := excessBits (num / den)
  let units := roundHalfEven num (den * Nat.pow 2 e) * Nat.pow 2 e
  if h : units < bound then some ⟨units, onGrid_of_le (rounded_le num den), h⟩ else none

end Magnitude

/-! ### Doubles -/

/-- A double-precision number. -/
inductive Double where
  /-- Not a number. -/
  | nan
  /-- An infinity, negative or positive. -/
  | infinite (negative : Bool)
  /-- A signed magnitude; zero has two signs. -/
  | finite (negative : Bool) (size : Magnitude)
deriving DecidableEq

instance : Inhabited Double := ⟨.finite false .zero⟩

namespace Double

/-- Positive zero. -/
def zero : Double := .finite false .zero

/-- The double nearest to `num / den` units, negated if asked; an infinity on overflow. -/
def ofUnits (negative : Bool) (num den : Nat) : Double :=
  match Magnitude.nearest? num den with
  | some size => .finite negative size
  | none => .infinite negative

/-- The double nearest to a whole number, if it is below `2 ^ 1024` in magnitude. -/
def ofInt? (n : Int) : Option Double :=
  (Magnitude.nearest? (n.natAbs * Magnitude.perOne) 1).map (.finite (decide (n < 0)))

/-- The double nearest to a natural number, an infinity when there is none. -/
def ofNat (n : Nat) : Double := ofUnits false (n * Magnitude.perOne) 1

/-- One. -/
def one : Double := ofNat 1

/-- A finite double as a signed count of units. -/
def units? : Double → Option Int
  | .finite negative size => some (if negative then -(size.units : Int) else size.units)
  | _ => none

/-- Whether the sign bit is set. -/
def isNegative : Double → Bool
  | .nan => false
  | .infinite negative => negative
  | .finite negative _ => negative

/-- Whether the number is neither an infinity nor not-a-number. -/
def isFinite : Double → Bool
  | .finite _ _ => true
  | _ => false

/-- Whether the number is zero, of either sign. -/
def isZero : Double → Bool
  | .finite _ size => size.units == 0
  | _ => false

/-- The whole number a double is, if it is one. -/
def toInt? : Double → Option Int
  | .finite negative size =>
    if size.units % Magnitude.perOne = 0 then
      let n : Int := (size.units / Magnitude.perOne : Nat)
      some (if negative then -n else n)
    else none
  | _ => none

/-- The sum, correctly rounded. -/
def add : Double → Double → Double
  | .nan, _ => .nan
  | _, .nan => .nan
  | .infinite a, .infinite b => if a = b then .infinite a else .nan
  | .infinite a, .finite _ _ => .infinite a
  | .finite _ _, .infinite b => .infinite b
  | .finite a x, .finite b y =>
    if a = b then ofUnits a (x.units + y.units) 1
    else if x.units = y.units then zero
    else if x.units < y.units then ofUnits b (y.units - x.units) 1
    else ofUnits a (x.units - y.units) 1

/-- The number without its sign. -/
def magnitude : Double → Double
  | .nan => .nan
  | .infinite _ => .infinite false
  | .finite _ size => .finite false size

/-- The number with the other sign. -/
def negated : Double → Double
  | .nan => .nan
  | .infinite negative => .infinite !negative
  | .finite negative size => .finite (!negative) size

/-- The product, correctly rounded. -/
def mul : Double → Double → Double
  | .nan, _ => .nan
  | _, .nan => .nan
  | .infinite a, .infinite b => .infinite (a != b)
  | .infinite a, .finite b y => if y.units = 0 then .nan else .infinite (a != b)
  | .finite a x, .infinite b => if x.units = 0 then .nan else .infinite (a != b)
  | .finite a x, .finite b y => ofUnits (a != b) (x.units * y.units) Magnitude.perOne

/-- The quotient, correctly rounded. -/
def div : Double → Double → Double
  | .nan, _ => .nan
  | _, .nan => .nan
  | .infinite _, .infinite _ => .nan
  | .infinite a, .finite b _ => .infinite (a != b)
  | .finite a _, .infinite b => .finite (a != b) .zero
  | .finite a x, .finite b y =>
    if y.units = 0 then (if x.units = 0 then .nan else .infinite (a != b))
    else ofUnits (a != b) (x.units * Magnitude.perOne) y.units

instance : Add Double := ⟨add⟩
instance : Mul Double := ⟨mul⟩
instance : Div Double := ⟨div⟩

end Double
end OfferRules

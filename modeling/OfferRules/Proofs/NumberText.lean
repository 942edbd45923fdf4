import OfferRules.Proofs.ShortestDecimal

/-!
# Numbers written and read again

A number becomes a text where texts are compared, and a text becomes a number where numbers are
compared.  A whole number is written in decimal digits, a double that is whole like the whole number
that it is, any other double as its shortest decimal.  All of these are texts of the grammar, so the
text is rounded to what the number itself counts as.  The name of an infinity is none of the
grammar, and a whole number too large for a double fails to be one, while its digits are an
infinity.

## Main definitions

* `Number.reread` — what a number is read as after it was written.
* `Number.IsReadBack` — which numbers are read as what they count as.

## Main results

* `Numeral.ofString_of_isDecimal` — a decimal is read as what it is rounded to.
* `Value.toNumber_toText_iff` — **which numbers are read back**, as the same double and as the same
  value.
-/

namespace OfferRules

attribute [local irreducible] Magnitude.bound Magnitude.perOne Double.wholeBound

namespace Numeral

/-! ### Decimals without blanks -/

theorem isBlank_of_isAsciiDigit {c : Char} (h : isAsciiDigit c = true) : isBlank c = false := by
  have hrange : 48 ≤ c.toNat ∧ c.toNat ≤ 57 := by
    unfold isAsciiDigit at h
    rw [Bool.and_eq_true, decide_eq_true_eq, decide_eq_true_eq] at h
    exact h
  unfold isBlank
  simp
  omega

theorem Writes.not_isBlank {cs : List Char} {n : ℕ} (h : Writes 10 cs n) :
    ∀ c ∈ cs, isBlank c = false := by
  intro c hc
  apply isBlank_of_isAsciiDigit
  exact (writes_ten_iff.mp h).1 c hc

theorem IsSign.not_isBlank {cs : List Char} {negative : Bool} (h : IsSign cs negative) :
    ∀ c ∈ cs, isBlank c = false := by
  cases h with
  | absent => exact nofun
  | plus => exact List.forall_mem_singleton.mpr rfl
  | minus => exact List.forall_mem_singleton.mpr rfl

theorem IsMantissa.not_isBlank {cs : List Char} {q : ℚ} (h : IsMantissa cs q) :
    ∀ c ∈ cs, isBlank c = false := by
  cases h with
  | whole hne h => exact h.not_isBlank
  | point hne h hf =>
    refine List.forall_mem_append.mpr ⟨h.not_isBlank, List.forall_mem_cons.mpr ⟨by decide, ?_⟩⟩
    exact hf.not_isBlank

theorem IsExponent.not_isBlank {cs : List Char} {e : ℤ} (h : IsExponent cs e) :
    ∀ c ∈ cs, isBlank c = false := by
  cases h with
  | absent => simp
  | present he hsign hne h =>
    refine List.forall_mem_cons.mpr
      ⟨?_, List.forall_mem_append.mpr ⟨hsign.not_isBlank, h.not_isBlank⟩⟩
    rcases he with rfl | rfl <;> decide

theorem IsDecimal.isBare {cs : List Char} {negative : Bool} {q : ℚ} (h : IsDecimal cs negative q) :
    IsBare cs := by
  obtain ⟨hsign, hm, he⟩ := h
  apply IsBare.of_all
  exact List.forall_mem_append.mpr
    ⟨hsign.not_isBlank, List.forall_mem_append.mpr ⟨hm.not_isBlank, he.not_isBlank⟩⟩

theorem strip_of_isBare {cs : List Char} (h : IsBare cs) : strip cs = cs := by
  have hstrip := @strip_append [] cs [] nofun nofun h
  simpa using hstrip

/-- A decimal is read as what it is rounded to. -/
theorem ofString_of_isDecimal {s : String} {negative : Bool} {q : ℚ} {d : Double}
    (h : IsDecimal s.toList negative q) (hd : d.Rounds negative q) : ofString s = .ok d := by
  rw [ofString_eq_iff, strip_of_isBare h.isBare]
  exact Reads.decimal h hd

end Numeral

/-! ### Texts of numbers -/

open Numeral

/-- The digits of a whole number are a decimal with its sign. -/
theorem isDecimal_toString (n : ℤ) :
    IsDecimal (toString n).toList (decide (n < 0)) (n.natAbs : ℕ) := by
  have hwhole : ∀ {sign : List Char} {negative : Bool} (m : ℕ), IsSign sign negative →
      IsDecimal (sign ++ m.repr.toList) negative (m : ℕ) := by
    intro sign negative m hsign
    have hdecimal := isDecimal_whole hsign (writes_toDigits m) Nat.toDigits_ne_nil IsExponent.absent
    simpa [Decimal.value, Nat.repr] using hdecimal
  rw [Int.toString_eq_repr, Int.repr_eq_if]
  split
  · next h =>
    rw [decide_eq_false (not_lt.mpr h), show n.natAbs = n.toNat by omega]
    exact hwhole _ IsSign.absent
  · next h =>
    rw [decide_eq_true (not_le.mp h), show n.natAbs = (-n).toNat by omega, String.toList_append]
    exact hwhole _ IsSign.minus

/-- What is read where the digits of a whole number stand: what it is rounded to, an infinity out of
range. -/
theorem ofString_toString {n : ℤ} {d : Double} (h : d.Rounds (decide (n < 0)) (n.natAbs : ℕ)) :
    ofString (toString n) = .ok d :=
  ofString_of_isDecimal (isDecimal_toString n) h

namespace Double

variable {negative : Bool} {x : Magnitude}

/-- A magnitude is rounded to itself. -/
theorem rounds_value (negative : Bool) (x : Magnitude) :
    (finite negative x).Rounds negative x.value := by
  refine ⟨rfl, ?_⟩
  have hnearest := (Magnitude.nearest?_eq_some_iff x.units Nat.one_pos).mp x.nearest?_units
  rwa [Nat.cast_one, div_one] at hnearest

/-- The whole number that a double is. -/
theorem toInt?_finite_eq_some {n : ℤ} (h : (finite negative x).toInt? = some n) :
    (n.natAbs : ℚ) = x.value ∧ (x.units ≠ 0 → decide (n < 0) = negative) := by
  unfold toInt? at h
  dsimp only at h
  split at h
  · next hmod =>
    have hunits : x.units / Magnitude.perOne * Magnitude.perOne = x.units :=
      Nat.div_mul_cancel (Nat.dvd_of_mod_eq_zero hmod)
    generalize x.units / Magnitude.perOne = m at h hunits
    have habs : n.natAbs = m := by
      rw [← Option.some.inj h]
      cases negative <;> simp
    constructor
    · rw [Magnitude.value, eq_div_iff (ne_of_gt Magnitude.perOne_cast_pos), habs]
      exact_mod_cast hunits
    · intro hne
      have hpos : m ≠ 0 := by
        rintro rfl
        rw [Nat.zero_mul] at hunits
        exact hne hunits.symm
      rw [← Option.some.inj h]
      cases negative with
      | false => simp
      | true => simpa using Nat.pos_of_ne_zero hpos
  · cases h

/-- The text of a double that is not whole is a decimal that is rounded to it. -/
theorem ofString_text_of_units (hx : x.units ≠ 0) :
    ofString (finite negative x).text = .ok (finite negative x) := by
  have hsign : IsSign (if negative then "-" else "").toList negative := by
    cases negative
    · exact IsSign.absent
    · exact IsSign.minus
  have htext : (finite negative x).text.toList
      = (if negative then "-" else "").toList ++ (Style.plain.layout x.shortest).toList := by
    rw [text, render, if_neg hx, String.toList_append]
  have hdecimal := Style.plain.isDecimal_layout x.shortest hsign
  rw [← htext] at hdecimal
  apply ofString_of_isDecimal hdecimal
  exact ⟨rfl, Decimal.magnitude?_eq_some_iff.mp (Magnitude.magnitude?_shortest hx)⟩

end Double

namespace Number

theorem wholeBound_le_limit : Double.wholeBound ≤ Nat.pow 10 numeralLimit := by
  obtain ⟨m, hm, hle⟩ : ∃ m, m = 310 ∧ Double.wholeBound ≤ 10 ^ m :=
    ⟨310, rfl, Double.wholeBound_le⟩
  have hlimit : m ≤ numeralLimit := by
    rw [hm]
    decide
  -- the exponent is named, so that no step evaluates the power
  generalize numeralLimit = l at hlimit ⊢
  exact hle.trans (Nat.pow_le_pow_right (by decide) hlimit)

/-- What a number is read as after it was written as a text. -/
def reread (n : Number) : Except Fault Double :=
  (Value.number n).toText.bind fun t => (Value.text t).toNumber

/-- A number is read back unless it is an infinity, or a whole number too large for a double that
has not too many digits to be written. -/
def IsReadBack : Number → Prop
  | int n => n.natAbs < Double.wholeBound ∨ Nat.pow 10 numeralLimit ≤ n.natAbs
  | double (.infinite _) => False
  | double _ => True

/-- The digits of a whole number are read as what it counts as, as long as that is a double; beyond,
they are an infinity, and too many digits are not written. -/
theorem reread_int_cases (n : ℤ) :
    (n.natAbs < Double.wholeBound ∧
      ∃ d, (int n).reread = .ok d ∧ (Value.int n).toNumber = .ok d) ∨
    (Double.wholeBound ≤ n.natAbs ∧ n.natAbs < Nat.pow 10 numeralLimit ∧
      (int n).reread = .ok (.infinite (decide (n < 0))) ∧
      (Value.int n).toNumber = .error .overflow) ∨
    (Double.wholeBound ≤ n.natAbs ∧ Nat.pow 10 numeralLimit ≤ n.natAbs ∧
      (int n).reread = .error .longInteger ∧ (Value.int n).toNumber = .error .overflow) := by
  have hreread : (int n).reread = (intText n).bind fun s => ofString s := by
    simp only [reread, Value.toText, Value.atomText]
    cases intText n <;> rfl
  have hnumber : (Value.int n).toNumber = ofInt n := rfl
  have hwritten : n.natAbs < Nat.pow 10 numeralLimit → intText n = .ok (toString n) :=
    fun h => if_neg (not_le.mpr h)
  rw [hreread, hnumber]
  rcases ofInt_spec n with ⟨x, hx, hnearest⟩ | ⟨hfault, hle⟩
  · have hlt : n.natAbs < Double.wholeBound := by exact_mod_cast hnearest.inRange
    refine Or.inl ⟨hlt, .finite (decide (n < 0)) x, ?_, hx⟩
    rw [hwritten (hlt.trans_le wholeBound_le_limit)]
    exact ofString_toString ⟨rfl, hnearest⟩
  · have hbound : Double.wholeBound ≤ n.natAbs := by exact_mod_cast hle
    rcases Nat.lt_or_ge n.natAbs (Nat.pow 10 numeralLimit) with hlt | hge
    · refine Or.inr (Or.inl ⟨hbound, hlt, ?_, hfault⟩)
      rw [hwritten hlt]
      exact ofString_toString ⟨rfl, hle⟩
    · refine Or.inr (Or.inr ⟨hbound, hge, ?_, hfault⟩)
      rw [intText, if_pos hge]
      rfl

/-- A finite double is read back, but a zero without its sign. -/
theorem reread_finite (negative : Bool) (x : Magnitude) :
    (double (.finite negative x)).reread
      = .ok (.finite (negative && decide (x.units ≠ 0)) x) := by
  cases hn : (Double.finite negative x).toInt? with
  | some n =>
    have hreread : (double (.finite negative x)).reread = ofString (toString n) := by
      simp only [reread, Value.toText, Value.atomText, hn]
      rfl
    obtain ⟨hvalue, hsign⟩ := Double.toInt?_finite_eq_some hn
    have hrounds : (Double.finite (decide (n < 0)) x).Rounds (decide (n < 0)) (n.natAbs : ℕ) :=
      ⟨rfl, hvalue ▸ (Double.rounds_value negative x).2⟩
    rw [hreread, ofString_toString hrounds]
    by_cases hx : x.units = 0
    · -- a zero is written without a sign
      have hzero : n = 0 := by
        rw [Magnitude.value, hx, Nat.cast_zero, zero_div, Nat.cast_eq_zero] at hvalue
        exact Int.natAbs_eq_zero.mp hvalue
      simp [hx, hzero]
    · simp [hx, hsign hx]
  | none =>
    have hreread : (double (.finite negative x)).reread
        = ofString (Double.finite negative x).text := by
      simp only [reread, Value.toText, Value.atomText, hn]
      rfl
    have hx : x.units ≠ 0 := by
      intro hx
      simp [Double.toInt?, hx] at hn
    rw [hreread, Double.ofString_text_of_units hx]
    simp [hx]

theorem reread_infinite (negative : Bool) : (double (.infinite negative)).reread = .ok .nan := by
  cases negative <;> decide +kernel

theorem reread_nan : (double .nan).reread = .ok .nan := by
  decide +kernel

end Number

/-- **Numbers are read back**: what is read of the text of a number is what the number counts as, or
both fail, unless the number is an infinity or a whole number that is too large for a double but not
too long to be written.  Only the negative zero is then read as another double, of the same
value. -/
theorem Value.toNumber_toText_iff (n : Number) :
    (n.reread.toOption = (Value.number n).toNumber.toOption ↔
      n.IsReadBack ∧ n ≠ .double (.finite true .zero)) ∧
    (n.reread.toOption.map Double.place? = (Value.number n).toNumber.toOption.map Double.place? ↔
      n.IsReadBack) := by
  cases n with
  | int n =>
    have hne : Number.int n ≠ .double (.finite true .zero) := nofun
    rcases Number.reread_int_cases n with
      ⟨hlt, d, hread, hnumber⟩ | ⟨hle, hlt, hread, hnumber⟩ | ⟨hle, hge, hread, hnumber⟩
    · have hback : (Number.int n).IsReadBack := Or.inl hlt
      rw [hread, hnumber]
      simp [hback]
    · -- the digits are an infinity, and the number fails
      have hback : ¬ (Number.int n).IsReadBack := by
        rintro (h | h) <;> omega
      rw [hread, hnumber]
      simp [hback, Except.toOption]
    · have hback : (Number.int n).IsReadBack := Or.inr hge
      rw [hread, hnumber]
      simp [hback, Except.toOption]
  | double d =>
    have hnumber : (Value.number (.double d)).toNumber = .ok d := rfl
    rw [hnumber]
    cases d with
    | nan =>
      rw [Number.reread_nan]
      simp [Number.IsReadBack]
    | infinite negative =>
      rw [Number.reread_infinite]
      simp [Number.IsReadBack, Except.toOption, Double.place?]
    | finite negative x =>
      rw [Number.reread_finite]
      have hback : (Number.double (.finite negative x)).IsReadBack := trivial
      constructor
      · -- only the sign of a zero is lost
        have hzero : x.units = 0 ↔ x = .zero :=
          ⟨fun h => Magnitude.eq_of_units h, by rintro rfl; rfl⟩
        cases negative <;> simp [hback, Except.toOption, hzero]
      · have hplace : (Double.finite (negative && decide (x.units ≠ 0)) x).place?
            = (Double.finite negative x).place? := by
          by_cases hx : x.units = 0 <;> simp [Double.place?, hx]
        simpa [hback, Except.toOption] using hplace

/-- The name of an infinity is written as its text, and is no number. -/
theorem Value.toNumber_toText_infinite :
    (Value.double (.infinite false)).toText = .ok "inf" ∧
      (Value.text "inf").toNumber = .ok .nan ∧
      (Value.double (.infinite false)).toNumber = .ok (.infinite false) ∧
      (Number.double (.infinite false)).reread.toOption
        ≠ (Value.double (.infinite false)).toNumber.toOption := by
  decide +kernel

end OfferRules

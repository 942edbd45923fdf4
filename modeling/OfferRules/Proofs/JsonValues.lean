import OfferRules.Proofs.Entries
import OfferRules.Proofs.Outcome
import OfferRules.Value.Path
import OfferRules.Value.View

/-!
# Values in JSON form

Values in JSON form have only text keys and no dates, bytes, sets or pairs.  Their parts are in
JSON form too, and they have a text exactly when no whole number in them has too many digits to be
written.

## Main definitions

* `Value.isJson` — a value is in JSON form.
* `Value.Hereditary` — a property that values pass on to their parts.

## Main results

* `Value.Hereditary.follow`, `Value.isJson_follow` — what is passed on along a path; the parts of a
  value in JSON form are in JSON form.
* `Value.toText_isOk` — **which values in JSON form have a text.**
-/

namespace OfferRules

theorem Value.isNull_iff {v : Value} : v.isNull = true ↔ v = .null := by
  cases v with
  | atom a => cases a <;> simp [Value.isNull]
  | list items => simp [Value.isNull]
  | map entries => simp [Value.isNull]
  | set members => simp [Value.isNull]
  | pair a b => simp [Value.isNull]

/-! ### JSON form -/

/-- Whether a leaf is in JSON form. -/
def Atom.isJson : Atom → Bool
  | .null | .bool _ | .number _ | .text _ => true
  | .date _ | .dateTime _ | .bytes _ => false

/-- Whether a key is a text. -/
def Atom.isText : Atom → Bool
  | .text _ => true
  | _ => false

namespace Value

mutual

/-- Whether a value is in JSON form. -/
def isJson : Value → Bool
  | .atom a => a.isJson
  | .list items => itemsJson items
  | .map entries => entriesJson entries
  | .set _ => false
  | .pair _ _ => false
termination_by structural v => v

/-- Whether all items are in JSON form. -/
def itemsJson : List Value → Bool
  | [] => true
  | v :: rest => isJson v && itemsJson rest
termination_by structural vs => vs

/-- Whether all entries have text keys and values in JSON form. -/
def entriesJson : List (Atom × Value) → Bool
  | [] => true
  | (k, v) :: rest => k.isText && isJson v && entriesJson rest
termination_by structural es => es

end

theorem itemsJson_iff {vs : List Value} : itemsJson vs = true ↔ ∀ v ∈ vs, v.isJson = true := by
  induction vs with
  | nil => simp [itemsJson]
  | cons v rest ih => simp [itemsJson, ih]

theorem entriesJson_iff {es : Entries} :
    entriesJson es = true ↔ ∀ p ∈ es, p.1.isText = true ∧ p.2.isJson = true := by
  induction es with
  | nil => simp [entriesJson]
  | cons p rest ih =>
    obtain ⟨k, v⟩ := p
    simp [entriesJson, ih]

theorem itemsWritable_iff {vs : List Value} :
    itemsWritable vs = true ↔ ∀ v ∈ vs, v.isWritable = true := by
  induction vs with
  | nil => simp [itemsWritable]
  | cons v rest ih => simp [itemsWritable, ih]

theorem entriesWritable_iff {es : Entries} :
    entriesWritable es = true ↔ ∀ p ∈ es, p.1.isWritable = true ∧ p.2.isWritable = true := by
  induction es with
  | nil => simp [entriesWritable]
  | cons p rest ih =>
    obtain ⟨k, v⟩ := p
    simp [entriesWritable, ih]

/-! ### Parts -/

/-- Whatever holds of a value holds of its items and of the values of its entries. -/
structure Hereditary (P : Value → Prop) : Prop where
  list : ∀ {items : List Value}, P (.list items) → ∀ v ∈ items, P v
  map : ∀ {es : Entries}, P (.map es) → ∀ p ∈ es, P p.2

theorem Hereditary.child {P : Value → Prop} (hP : Hereditary P) {v part : Value}
    {segment : List CodePoint} (hv : P v) (h : v.child segment = .ok (some part)) : P part := by
  cases v with
  | map entries =>
    obtain ⟨k, hmem⟩ := Entries.mem_of_get? (Except.ok.inj h)
    exact hP.map hv _ hmem
  | list items =>
    obtain ⟨-, i, -, hitem⟩ := Value.child_list_eq_some.mp h
    exact hP.list hv _ (List.mem_of_getElem? hitem)
  | atom a => exact nomatch Except.ok.inj h
  | set members => exact nomatch Except.ok.inj h
  | pair a b => exact nomatch Except.ok.inj h

/-- What is passed on to parts is passed on along a path. -/
theorem Hereditary.follow {P : Value → Prop} (hP : Hereditary P) {segments : List (List CodePoint)}
    {v part : Value} (hv : P v) (h : v.follow segments = .ok (some part)) : P part := by
  induction segments generalizing v with
  | nil =>
    obtain rfl := Option.some.inj (Except.ok.inj h)
    exact hv
  | cons segment rest ih =>
    obtain ⟨part', hchild, hrest⟩ := follow_cons_eq_some.mp h
    exact ih (hP.child hv hchild) hrest

/-- The parts of a value in JSON form are in JSON form. -/
theorem isJson_follow {segments : List (List CodePoint)} {v part : Value} (hv : v.isJson = true)
    (h : v.follow segments = .ok (some part)) : part.isJson = true :=
  Hereditary.follow (P := fun v => v.isJson = true)
    ⟨itemsJson_iff.mp, fun hmap p hp => (entriesJson_iff.mp hmap p hp).2⟩ hv h

end Value

/-! ### Texts -/

theorem intText_isOk (n : Int) :
    (intText n).isOk = decide (n.natAbs < Nat.pow 10 numeralLimit) := by
  unfold intText
  split
  · next h => simpa [Except.isOk, Except.toBool] using h
  · next h => simpa [Except.isOk, Except.toBool] using h

namespace Json

theorem number_isOk (n : Number) : (number n).isOk = (Atom.number n).isWritable := by
  cases n with
  | int n => exact intText_isOk n
  | double d => rfl

theorem atom_isOk (a : Atom) : (atom a).isOk = a.isWritable := by
  cases a with
  | number n => exact number_isOk n
  | _ => rfl

theorem key_isOk {k : Atom} (h : k.isText = true) : (key k).isOk = k.isWritable := by
  cases k with
  | text s => rfl
  | _ => exact nomatch h

open Value

mutual

/-- A value in JSON form is written exactly when no whole number in it has too many digits. -/
theorem write_isOk (v : Value) (h : v.isJson = true) : (write v).isOk = v.isWritable := by
  match v with
  | .atom a => exact atom_isOk a
  | .list items => rw [write, isOk_map, writeItems_isOk items h, isWritable]
  | .map entries => rw [write, isOk_map, writeEntries_isOk entries h, isWritable]
  | .set members => exact nomatch h
  | .pair a b => exact nomatch h
termination_by structural v

theorem writeItems_isOk (vs : List Value) (h : itemsJson vs = true) :
    (writeItems vs).isOk = itemsWritable vs := by
  match vs with
  | [] => rfl
  | v :: rest =>
    rw [itemsJson, Bool.and_eq_true] at h
    have hv := write_isOk v h.1
    have hrest := writeItems_isOk rest h.2
    rw [writeItems, itemsWritable, ← hv, ← hrest]
    cases write v <;> cases writeItems rest <;> rfl
termination_by structural vs

theorem writeEntries_isOk (es : List (Atom × Value)) (h : entriesJson es = true) :
    (writeEntries es).isOk = entriesWritable es := by
  match es with
  | [] => rfl
  | (k, v) :: rest =>
    simp only [entriesJson, Bool.and_eq_true] at h
    have hk := key_isOk h.1.1
    have hv := write_isOk v h.1.2
    have hrest := writeEntries_isOk rest h.2
    rw [writeEntries, entriesWritable, ← hk, ← hv, ← hrest]
    cases key k <;> cases write v <;> cases writeEntries rest <;> rfl
termination_by structural es

end

end Json

namespace Value

theorem atomText_isOk {a : Atom} : (atomText a).isOk = a.isWritable := by
  cases a with
  | number n =>
    cases n with
    | int n =>
      rw [atomText, isOk_map]
      exact intText_isOk n
    | double d => rfl
  | _ => rfl

mutual

/-- **Which values in JSON form have a text**: those in which no whole number has too many
digits. -/
theorem toText_isOk (v : Value) (h : v.isJson = true) : v.toText.isOk = v.isWritable := by
  match v with
  | .atom a => exact atomText_isOk
  | .list items => rw [toText, isOk_map, itemTexts_isOk items h, isWritable]
  | .map entries => rw [toText, isOk_map, Json.write_isOk (.map entries) h]
  | .set members => exact nomatch h
  | .pair a b => exact nomatch h
termination_by structural v

theorem itemTexts_isOk (vs : List Value) (h : itemsJson vs = true) :
    (itemTexts vs).isOk = itemsWritable vs := by
  match vs with
  | [] => rfl
  | v :: rest =>
    rw [itemsJson, Bool.and_eq_true] at h
    have hv := toText_isOk v h.1
    have hrest := itemTexts_isOk rest h.2
    rw [itemTexts, itemsWritable, ← hrest]
    by_cases hnull : v.isNull = true
    · -- an item that is none has an empty text, and can be written
      have hw : v.isWritable = true := by
        rw [← hv]
        cases v with
        | atom a => cases a <;> first | rfl | exact nomatch hnull
        | _ => exact nomatch hnull
      rw [if_pos hnull, hw]
      cases itemTexts rest <;> rfl
    · rw [if_neg hnull, ← hv]
      cases v.toText <;> cases itemTexts rest <;> rfl
termination_by structural vs

end

end Value
end OfferRules

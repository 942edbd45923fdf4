import OfferRules.Value.Basic

/-!
# Entries under text keys

A text is the same key as itself and no other, so setting the entry of a text key changes what is
found under it and nothing else.

## Main results

* `Atom.same_text` — a key is the same as a text exactly when it is that text.
* `Entries.get?_insert_self`, `Entries.get?_insert_of_ne` — what is found after setting an entry.
* `Entries.filter_insert` — the other entries stay as they are, in their order.
* `Entries.forall_ofList` — what holds of all keys and values holds of the entries they leave.
* `Entries.get?_text_eq_some` — what is found under a text among different keys.
* `Entries.nodup_keys_ofList`, `Entries.ofList_of_nodup` — entries left by text keys have different
  keys, and different text keys leave all entries.
-/

namespace OfferRules

theorem Atom.same_text (k : Atom) (s : Text) : k.same (.text s) = decide (k = .text s) := by
  rw [Bool.eq_iff_iff, decide_eq_true_eq]
  cases k <;> simp [Atom.same, Atom.number?]

namespace Entries

/-- The key of an entry is not a text. -/
def otherKey (s : Text) (p : Atom × Value) : Bool := decide (p.1 ≠ .text s)

theorem get?_cons (key k : Atom) (v : Value) (rest : Entries) :
    get? key ((k, v) :: rest) = if k.same key then some v else get? key rest := rfl

theorem insert_cons (key k : Atom) (value v : Value) (rest : Entries) :
    insert key value ((k, v) :: rest)
      = if k.same key then (k, value) :: rest else (k, v) :: insert key value rest := rfl

theorem get?_insert_self (s : Text) (value : Value) (es : Entries) :
    get? (.text s) (insert (.text s) value es) = some value := by
  induction es with
  | nil => simp [insert, get?_cons, Atom.same_text]
  | cons p rest ih =>
    obtain ⟨k, v⟩ := p
    rw [insert_cons]
    by_cases h : k.same (.text s) = true
    · rw [if_pos h, get?_cons, if_pos h]
    · rw [if_neg h, get?_cons, if_neg h, ih]

theorem get?_insert_of_ne {s t : Text} (hst : s ≠ t) (value : Value) (es : Entries) :
    get? (.text t) (insert (.text s) value es) = get? (.text t) es := by
  induction es with
  | nil => simp [insert, get?, Atom.same_text, hst]
  | cons p rest ih =>
    obtain ⟨k, v⟩ := p
    rw [insert_cons]
    by_cases h : k.same (.text s) = true
    · obtain rfl : k = .text s := by simpa [Atom.same_text] using h
      rw [if_pos h, get?_cons, get?_cons]
      simp [Atom.same_text, hst]
    · rw [if_neg h, get?_cons, get?_cons, ih]

theorem filter_insert (s : Text) (value : Value) (es : Entries) :
    (insert (.text s) value es).filter (otherKey s) = es.filter (otherKey s) := by
  induction es with
  | nil => simp [insert, otherKey]
  | cons p rest ih =>
    obtain ⟨k, v⟩ := p
    rw [insert_cons]
    by_cases h : k.same (.text s) = true
    · obtain rfl : k = .text s := by simpa [Atom.same_text] using h
      rw [if_pos h]
      simp [otherKey]
    · rw [if_neg h, List.filter_cons, List.filter_cons, ih]

/-! ### Laws of all entries -/

theorem mem_of_get? {key : Atom} {es : Entries} {v : Value} (h : get? key es = some v) :
    ∃ k, (k, v) ∈ es := by
  induction es with
  | nil => exact nomatch h
  | cons p rest ih =>
    obtain ⟨k, w⟩ := p
    rw [get?_cons] at h
    by_cases hk : k.same key = true
    · rw [if_pos hk] at h
      obtain rfl := Option.some.inj h
      exact ⟨k, List.mem_cons_self⟩
    · rw [if_neg hk] at h
      obtain ⟨k', hmem⟩ := ih h
      exact ⟨k', List.mem_cons_of_mem _ hmem⟩

variable {A : Atom → Prop} {B : Value → Prop}

theorem forall_insert {es : Entries} (h : ∀ p ∈ es, A p.1 ∧ B p.2) {key : Atom} {value : Value}
    (hkey : A key) (hvalue : B value) : ∀ p ∈ insert key value es, A p.1 ∧ B p.2 := by
  induction es with
  | nil => simpa [insert] using ⟨hkey, hvalue⟩
  | cons p rest ih =>
    obtain ⟨k, v⟩ := p
    rw [List.forall_mem_cons] at h
    rw [insert_cons]
    split
    · exact List.forall_mem_cons.mpr ⟨⟨h.1.1, hvalue⟩, h.2⟩
    · exact List.forall_mem_cons.mpr ⟨h.1, ih h.2⟩

theorem forall_foldl_insert {pairs : List (Atom × Value)} {es : Entries}
    (hpairs : ∀ p ∈ pairs, A p.1 ∧ B p.2) (hes : ∀ p ∈ es, A p.1 ∧ B p.2) :
    ∀ p ∈ pairs.foldl (fun entries p => insert p.1 p.2 entries) es, A p.1 ∧ B p.2 := by
  induction pairs generalizing es with
  | nil => exact hes
  | cons q rest ih =>
    rw [List.forall_mem_cons] at hpairs
    exact ih hpairs.2 (forall_insert hes hpairs.1.1 hpairs.1.2)

/-- What is said of all keys and values of a sequence holds of the entries it leaves. -/
theorem forall_ofList {pairs : List (Atom × Value)} (h : ∀ p ∈ pairs, A p.1 ∧ B p.2) :
    ∀ p ∈ ofList pairs, A p.1 ∧ B p.2 :=
  forall_foldl_insert h (by simp)

/-! ### Different keys -/

/-- What is found under a text is written under it. -/
theorem mem_of_get?_text {s : Text} {es : Entries} {v : Value}
    (h : get? (.text s) es = some v) : (Atom.text s, v) ∈ es := by
  induction es with
  | nil => exact nomatch h
  | cons p rest ih =>
    obtain ⟨k, w⟩ := p
    rw [get?_cons] at h
    by_cases hk : k.same (.text s) = true
    · rw [if_pos hk] at h
      rw [Atom.same_text, decide_eq_true_eq] at hk
      rw [hk, Option.some.inj h]
      exact List.mem_cons_self
    · rw [if_neg hk] at h
      exact List.mem_cons_of_mem _ (ih h)

/-- Among different keys, a text finds exactly what is written under it. -/
theorem get?_text_eq_some {s : Text} {es : Entries} {v : Value}
    (hkeys : (es.map Prod.fst).Nodup) :
    get? (.text s) es = some v ↔ (Atom.text s, v) ∈ es := by
  refine ⟨mem_of_get?_text, ?_⟩
  intro hmem
  induction es with
  | nil => exact nomatch hmem
  | cons p rest ih =>
    obtain ⟨k, w⟩ := p
    rw [List.map_cons, List.nodup_cons] at hkeys
    rw [get?_cons, Atom.same_text]
    rcases List.mem_cons.mp hmem with heq | hrest
    · obtain ⟨rfl, rfl⟩ := Prod.mk.inj heq
      simp
    · have hne : k ≠ .text s := by
        rintro rfl
        exact hkeys.1 (List.mem_map.mpr ⟨_, hrest, rfl⟩)
      rw [if_neg (by simpa using hne)]
      exact ih hkeys.2 hrest

/-- Setting the entry of a text leaves the keys as they are, or puts the text behind them. -/
theorem keys_insert (s : Text) (value : Value) (es : Entries) :
    (insert (.text s) value es).map Prod.fst =
      if .text s ∈ es.map Prod.fst then es.map Prod.fst else es.map Prod.fst ++ [.text s] := by
  induction es with
  | nil => rfl
  | cons p rest ih =>
    obtain ⟨k, v⟩ := p
    rw [insert_cons, Atom.same_text]
    by_cases hk : k = .text s
    · rw [if_pos (decide_eq_true hk), if_pos (by simp [hk])]
      rfl
    · rw [if_neg (by simpa using hk), List.map_cons, ih]
      have hmem : Atom.text s ∈ k :: rest.map Prod.fst ↔ Atom.text s ∈ rest.map Prod.fst := by
        rw [List.mem_cons]
        exact or_iff_right (Ne.symm hk)
      rw [List.map_cons]
      simp only [hmem]
      split <;> rfl

theorem insert_of_not_mem {s : Text} {es : Entries} (h : .text s ∉ es.map Prod.fst)
    (value : Value) : insert (.text s) value es = es ++ [(.text s, value)] := by
  induction es with
  | nil => rfl
  | cons p rest ih =>
    obtain ⟨k, v⟩ := p
    rw [List.map_cons, List.mem_cons, not_or] at h
    rw [insert_cons, Atom.same_text, if_neg (by simpa using Ne.symm h.1), ih h.2, List.cons_append]

/-- Different text keys leave all entries as they are. -/
theorem ofList_of_nodup {pairs : List (Atom × Value)} (htext : ∀ p ∈ pairs, ∃ s, p.1 = .text s)
    (hkeys : (pairs.map Prod.fst).Nodup) : ofList pairs = pairs := by
  have hgeneral : ∀ es : Entries, ((es ++ pairs).map Prod.fst).Nodup →
      pairs.foldl (fun entries p => insert p.1 p.2 entries) es = es ++ pairs := by
    induction pairs with
    | nil => exact fun es _ => by simp
    | cons p rest ih =>
      rw [List.forall_mem_cons] at htext
      rw [List.map_cons, List.nodup_cons] at hkeys
      intro es hes
      obtain ⟨s, hs⟩ := htext.1
      have hnew : .text s ∉ es.map Prod.fst := by
        rw [List.map_append, List.nodup_append] at hes
        exact fun hmem => hes.2.2 _ hmem p.1 (by simp) hs.symm
      have hsplit : es ++ p :: rest = (es ++ [(p.1, p.2)]) ++ rest := by simp
      rw [List.foldl_cons, hs, insert_of_not_mem hnew, ← hs, hsplit]
      exact ih htext.2 hkeys.2 _ (hsplit ▸ hes)
  exact hgeneral [] (by simpa using hkeys)

/-- Entries left by text keys have different keys. -/
theorem nodup_keys_ofList {pairs : List (Atom × Value)}
    (h : ∀ p ∈ pairs, ∃ s, p.1 = .text s) : ((ofList pairs).map Prod.fst).Nodup := by
  have hgeneral : ∀ es : Entries, (es.map Prod.fst).Nodup →
      ((pairs.foldl (fun entries p => insert p.1 p.2 entries) es).map Prod.fst).Nodup := by
    induction pairs with
    | nil => exact fun es hes => hes
    | cons p rest ih =>
      rw [List.forall_mem_cons] at h
      intro es hes
      refine ih h.2 _ ?_
      obtain ⟨s, hs⟩ := h.1
      dsimp only
      rw [hs, keys_insert]
      split
      · exact hes
      · next hnew =>
        rw [List.nodup_append]
        refine ⟨hes, by simp, ?_⟩
        intro a ha b hb heq
        rw [List.mem_singleton.mp hb] at heq
        exact hnew (heq ▸ ha)
  exact hgeneral [] (by simp)

end Entries
end OfferRules

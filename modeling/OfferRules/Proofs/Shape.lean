import OfferRules.Proofs.StrictEquality

/-!
# Shapes of values

A part of a value is told by its address: from the value on, each step names the key of an entry or
the place of an item.  Two values have the same shape when at every address they have parts of the
same kind, or none.  Equal data have the same shape, in whatever order their mappings list their
keys, and data are equal to themselves unless there is a not-a-number at some address.

## Main definitions

* `Value.Step`, `Value.at?` — steps into a value, and the part at an address.
* `Kind`, `Value.kind?` — the kinds of data; whole numbers and doubles are of one kind.
* `Value.SameShape` — parts of the same kind at every address.

## Main results

* `Value.strictEq_self_iff` — which data are equal to themselves.
* `Value.sameShape_of_strictEq` — equal data have the same shape.
* `Value.strictEq_partial_equivalence` — **strict equality of data is a partial equivalence.**
-/

namespace OfferRules

/-! ### Leaves -/

theorem Number.eq_self_iff {n : Number} : n.eq n = true ↔ n ≠ .double .nan := by
  rw [Number.eq_iff]
  constructor
  · rintro ⟨p, hp, -⟩ rfl
    exact nomatch hp
  · intro hne
    obtain ⟨p, hp⟩ := Option.isSome_iff_exists.mp (Number.place?_isSome hne)
    exact ⟨p, hp, hp⟩

theorem Atom.strictEq_self_iff {a : Atom} (ha : a.isJson = true) :
    a.strictEq a = true ↔ a ≠ .number (.double .nan) := by
  by_cases hnumber : ∃ n, a = .number n
  · obtain ⟨n, rfl⟩ := hnumber
    rw [Atom.strictEq, Number.eq_self_iff]
    exact not_congr ⟨congrArg _, Atom.number.inj⟩
  · refine iff_of_true ((Atom.strictEq_iff ha).mpr (Or.inr ⟨?_, rfl⟩)) ?_
    · intro n hn
      exact hnumber ⟨n, hn⟩
    · intro hnan
      exact hnumber ⟨_, hnan⟩

/-! ### Addresses -/

namespace Value

/-- A step from a value to one of its parts. -/
inductive Step where
  /-- To what is under a key. -/
  | key (s : Text)
  /-- To what is at a place, counted from zero. -/
  | place (i : Nat)
deriving DecidableEq, Repr

/-- The part of a value that a step leads to. -/
def part? : Step → Value → Option Value
  | .key s, .map entries => Entries.get? (.text s) entries
  | .place i, .list items => items[i]?
  | _, _ => none

/-- The part of a value at an address. -/
def at? (v : Value) : List Step → Option Value
  | [] => some v
  | step :: rest => (v.part? step).bind fun part => part.at? rest

@[simp] theorem at?_nil (v : Value) : v.at? [] = some v := rfl

theorem at?_cons (v : Value) (step : Step) (rest : List Step) :
    v.at? (step :: rest) = (v.part? step).bind fun part => part.at? rest := rfl

@[simp] theorem part?_atom (a : Atom) (step : Step) : (Value.atom a).part? step = none := by
  cases step <;> rfl

@[simp] theorem part?_list_key (items : List Value) (s : Text) :
    (Value.list items).part? (.key s) = none := rfl

@[simp] theorem part?_list_place (items : List Value) (i : Nat) :
    (Value.list items).part? (.place i) = items[i]? := rfl

@[simp] theorem part?_map_key (entries : Entries) (s : Text) :
    (Value.map entries).part? (.key s) = Entries.get? (.text s) entries := rfl

@[simp] theorem part?_map_place (entries : Entries) (i : Nat) :
    (Value.map entries).part? (.place i) = none := rfl

/-! ### Values equal to themselves -/

/-- At no address of a value is there a not-a-number. -/
def HasNumbersOnly (v : Value) : Prop := ∀ address, v.at? address ≠ some (.double .nan)

/-- A value has numbers only when it is no not-a-number and its parts have numbers only. -/
theorem hasNumbersOnly_iff {v : Value} :
    v.HasNumbersOnly ↔
      v ≠ .double .nan ∧ ∀ step part, v.part? step = some part → part.HasNumbersOnly := by
  constructor
  · intro h
    refine ⟨fun hnan => h [] (congrArg some hnan), ?_⟩
    intro step part hpart rest hnan
    apply h (step :: rest)
    rw [at?_cons, hpart]
    exact hnan
  · rintro ⟨hself, hparts⟩ address hnan
    cases address with
    | nil => exact hself (Option.some.inj hnan)
    | cons step rest =>
      obtain ⟨part, hpart, hrest⟩ := Option.bind_eq_some_iff.mp hnan
      exact hparts step part hpart rest hrest

theorem hasNumbersOnly_atom {a : Atom} :
    (Value.atom a).HasNumbersOnly ↔ a ≠ .number (.double .nan) := by
  rw [hasNumbersOnly_iff]
  simp

theorem hasNumbersOnly_list {items : List Value} :
    (Value.list items).HasNumbersOnly ↔ ∀ v ∈ items, v.HasNumbersOnly := by
  rw [hasNumbersOnly_iff]
  constructor
  · rintro ⟨-, hparts⟩ v hv
    obtain ⟨i, hi⟩ := List.getElem?_of_mem hv
    exact hparts (.place i) v hi
  · intro h
    refine ⟨nofun, ?_⟩
    intro step v hv
    cases step with
    | key s => exact nomatch hv
    | place i => exact h v (List.mem_of_getElem? hv)

/-- Where the keys of a mapping are different texts, all its entries have addresses. -/
theorem hasNumbersOnly_map {entries : Entries} (hkeys : (entries.map Prod.fst).Nodup)
    (htext : ∀ p ∈ entries, p.1.isText = true) :
    (Value.map entries).HasNumbersOnly ↔ ∀ p ∈ entries, p.2.HasNumbersOnly := by
  rw [hasNumbersOnly_iff]
  constructor
  · rintro ⟨-, hparts⟩ ⟨k, v⟩ hp
    obtain ⟨s, rfl⟩ := isText_iff.mp (htext _ hp)
    exact hparts (.key s) v ((Entries.get?_text_eq_some hkeys).mpr hp)
  · intro h
    refine ⟨nofun, ?_⟩
    intro step v hv
    cases step with
    | key s => exact h _ (Entries.mem_of_get?_text hv)
    | place i => exact nomatch hv

/-- Data are equal to themselves unless there is a not-a-number in them. -/
theorem strictEq_self_iff {v : Value} (hv : v.isData = true) :
    v.strictEq v = true ↔ v.HasNumbersOnly := by
  induction v using tree_induction with
  | atom a => rw [hasNumbersOnly_atom, ← Atom.strictEq_self_iff hv, strictEq]
  | list items ih =>
    have hitems := isData_list.mp hv
    rw [hasNumbersOnly_list, strictEq_list]
    constructor
    · rintro ⟨_, hsame, -, heq⟩ v hmem
      obtain rfl := Value.list.inj hsame
      obtain ⟨i, hi⟩ := List.getElem?_of_mem hmem
      exact (ih v hmem (hitems v hmem)).mp (heq i v v hi hi)
    · intro h
      refine ⟨items, rfl, rfl, ?_⟩
      intro i x y hx hy
      obtain rfl := Option.some.inj (hx.symm.trans hy)
      have hmem := List.mem_of_getElem? hx
      exact (ih x hmem (hitems x hmem)).mpr (h x hmem)
  | map entries ih =>
    obtain ⟨hkeys, hentries⟩ := isData_map.mp hv
    have htext := fun p hp => (hentries p hp).1
    rw [hasNumbersOnly_map hkeys htext, strictEq_map htext]
    -- under the key of an entry stands the value of this entry
    have hfound : ∀ p ∈ entries, Entries.get? p.1 entries = some p.2 := by
      rintro ⟨k, w⟩ hp
      obtain ⟨s, rfl⟩ := isText_iff.mp (htext _ hp)
      exact (Entries.get?_text_eq_some hkeys).mpr hp
    constructor
    · rintro ⟨_, hsame, -, heq⟩ p hp
      obtain rfl := Value.map.inj hsame
      obtain ⟨w, hw, hpw⟩ := heq p hp
      obtain rfl := Option.some.inj ((hfound p hp).symm.trans hw)
      exact (ih p hp (hentries p hp).2).mp hpw
    · intro h
      refine ⟨entries, rfl, fun _ => Iff.rfl, ?_⟩
      intro p hp
      exact ⟨p.2, hfound p hp, (ih p hp (hentries p hp).2).mpr (h p hp)⟩
  | set members => exact absurd hv Bool.false_ne_true
  | pair a b => exact absurd hv Bool.false_ne_true

end Value

/-! ### Shapes -/

/-- The kinds of data. -/
inductive Kind where
  /-- None. -/
  | null
  /-- A truth value. -/
  | bool
  /-- A number, whole or double. -/
  | number
  /-- A text. -/
  | text
  /-- A list. -/
  | list
  /-- A mapping. -/
  | map
deriving DecidableEq, Repr

namespace Value

/-- The kind of a value, if it is one of data. -/
def kind? : Value → Option Kind
  | .atom .null => some .null
  | .atom (.bool _) => some .bool
  | .atom (.number _) => some .number
  | .atom (.text _) => some .text
  | .list _ => some .list
  | .map _ => some .map
  | _ => none

/-- At every address, two values have parts of the same kind, or none. -/
def SameShape (a b : Value) : Prop :=
  ∀ address, (a.at? address).map kind? = (b.at? address).map kind?

/-- Values of one kind whose parts have the same shapes, step by step, have the same shape. -/
theorem sameShape_of_parts {a b : Value} (hkind : a.kind? = b.kind?)
    (hparts : ∀ step, (a.part? step = none ∧ b.part? step = none) ∨
      ∃ x y, a.part? step = some x ∧ b.part? step = some y ∧ x.SameShape y) :
    a.SameShape b := by
  intro address
  cases address with
  | nil => exact congrArg some hkind
  | cons step rest =>
    rw [at?_cons, at?_cons]
    rcases hparts step with ⟨ha, hb⟩ | ⟨x, y, ha, hb, hxy⟩
    · rw [ha, hb]
    · rw [ha, hb]
      exact hxy rest

theorem kind?_atom_congr {a b : Atom} (ha : a.isJson = true) (h : a.strictEq b = true) :
    (Value.atom a).kind? = (Value.atom b).kind? := by
  rcases (Atom.strictEq_iff ha).mp h with ⟨m, n, rfl, rfl, -⟩ | ⟨-, rfl⟩ <;> rfl

/-- Equal data have the same shape. -/
theorem sameShape_of_strictEq {a b : Value} (ha : a.isData = true) (hb : b.isData = true)
    (h : a.strictEq b = true) : a.SameShape b := by
  induction a using tree_induction generalizing b with
  | atom a =>
    obtain ⟨b, rfl, hab⟩ := strictEq_atom.mp h
    refine sameShape_of_parts (kind?_atom_congr ha hab) fun step => Or.inl ?_
    simp
  | list xs ih =>
    obtain ⟨ys, rfl, hlength, hitems⟩ := strictEq_list.mp h
    refine sameShape_of_parts rfl fun step => ?_
    cases step with
    | key s => exact Or.inl ⟨rfl, rfl⟩
    | place i =>
      by_cases hi : i < xs.length
      · have hx := List.getElem?_eq_getElem hi
        have hy := List.getElem?_eq_getElem (hlength ▸ hi : i < ys.length)
        have hmem := List.getElem_mem hi
        exact Or.inr ⟨_, _, hx, hy, ih _ hmem (isData_list.mp ha _ hmem)
          (isData_list.mp hb _ (List.getElem_mem _)) (hitems i _ _ hx hy)⟩
      · have hi' : ys.length ≤ i := by omega
        exact Or.inl ⟨List.getElem?_eq_none (by omega), List.getElem?_eq_none hi'⟩
  | map xs ih =>
    obtain ⟨hxs, hxsData⟩ := isData_map.mp ha
    obtain ⟨ys, rfl, hkeys, hvalues⟩ := (strictEq_map fun p hp => (hxsData p hp).1).mp h
    have hysData := (isData_map.mp hb).2
    refine sameShape_of_parts rfl fun step => ?_
    cases step with
    | place i => exact Or.inl ⟨rfl, rfl⟩
    | key s =>
      rw [part?_map_key, part?_map_key]
      cases hx : Entries.get? (.text s) xs with
      | some v =>
        have hv := Entries.mem_of_get?_text hx
        obtain ⟨w, hw, hvw⟩ := hvalues _ hv
        exact Or.inr ⟨v, w, rfl, hw, ih _ hv (hxsData _ hv).2
          (hysData _ (Entries.mem_of_get?_text hw)).2 hvw⟩
      | none =>
        -- the key is not in the first mapping, and so not in the second
        refine Or.inl ⟨rfl, Option.eq_none_iff_forall_ne_some.mpr ?_⟩
        intro w hw
        have hmem := (hkeys (.text s)).mpr (List.mem_map_of_mem (Entries.mem_of_get?_text hw))
        obtain ⟨⟨_, v⟩, hv, rfl⟩ := List.mem_map.mp hmem
        rw [(Entries.get?_text_eq_some hxs).mpr hv] at hx
        exact nomatch hx
  | set members => exact nomatch ha
  | pair a b => exact nomatch ha

/-- **Strict equality of data is a partial equivalence**: it is symmetric and transitive, data are
equal to themselves exactly when there is no not-a-number in them at any depth, and equal data have
parts of the same kind at every address. -/
theorem strictEq_partial_equivalence {a b c : Value} (ha : a.isData = true)
    (hb : b.isData = true) :
    a.strictEq b = b.strictEq a ∧
      (a.strictEq b = true → b.strictEq c = true → a.strictEq c = true) ∧
      (a.strictEq a = true ↔ a.HasNumbersOnly) ∧
      (a.strictEq b = true → a.SameShape b) := by
  refine ⟨?_, strictEq_trans ha hb, strictEq_self_iff ha, sameShape_of_strictEq ha hb⟩
  rw [Bool.eq_iff_iff]
  exact ⟨strictEq_symm ha hb, strictEq_symm hb ha⟩

/-- Mappings with their keys in another order, and with a whole number and the double beside it. -/
theorem strictEq_partial_equivalence_reordered :
    (Value.record [("tags", .list [.int 1, .text "x"]), ("vip", .bool true)]).isData = true ∧
      (Value.record [("vip", .bool true), ("tags", .list [.double .one, .text "x"])]).isData
        = true ∧
      (Value.record [("tags", .list [.int 1, .text "x"]), ("vip", .bool true)]).SameShape
        (.record [("vip", .bool true), ("tags", .list [.double .one, .text "x"])]) := by
  have heq : (Value.record [("tags", .list [.int 1, .text "x"]), ("vip", .bool true)]).strictEq
      (.record [("vip", .bool true), ("tags", .list [.double .one, .text "x"])]) = true := by
    decide +kernel
  obtain ⟨-, -, -, hshape⟩ := strictEq_partial_equivalence
    (a := .record [("tags", .list [.int 1, .text "x"]), ("vip", .bool true)])
    (b := .record [("vip", .bool true), ("tags", .list [.double .one, .text "x"])])
    (c := .null) (by decide) (by decide)
  exact ⟨by decide, by decide, hshape heq⟩

end Value
end OfferRules

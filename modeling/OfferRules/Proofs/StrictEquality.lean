import OfferRules.Proofs.Data
import OfferRules.Value.Equality

/-!
# Laws of strict equality

Strict equality compares numbers by their exact value, lists item by item and mappings key by key.
On data it is symmetric, and it is transitive whatever the last value is, so two equal data are
equal to the same values.  It is reflexive only as far as all numbers are numbers.

## Main results

* `Value.strictEq_atom`, `Value.strictEq_list`, `Value.strictEq_map` — what equals a leaf, a list
  and a mapping.
* `Value.strictEq_symm` — **equality of data is symmetric.**
* `Value.strictEq_trans` — **equality of data with any value is transitive.**
* `Value.strictEq_congr` — equal data are equal to the same values.
-/

namespace OfferRules

/-! ### Leaves -/

/-- Numbers are equal when they have the same place. -/
theorem Number.eq_iff {a b : Number} :
    a.eq b = true ↔ ∃ p, a.place? = some p ∧ b.place? = some p := by
  unfold Number.eq
  cases a.place? with
  | none => simp
  | some p =>
    cases b.place? with
    | none => simp
    | some q =>
      show (p == q) = true ↔ _
      rw [beq_iff_eq]
      exact ⟨fun h => ⟨p, rfl, congrArg some h.symm⟩,
        fun ⟨_, hp, hq⟩ => Option.some.inj (hp.trans hq.symm)⟩

namespace Atom

/-- What equals a leaf in JSON form: a number in the same place, or the same leaf. -/
theorem strictEq_iff {a b : Atom} (ha : a.isJson = true) :
    a.strictEq b = true ↔
      (∃ m n, a = .number m ∧ b = .number n ∧ m.eq n = true) ∨ ((∀ n, a ≠ .number n) ∧ a = b) := by
  cases a with
  | number m => cases b <;> simp [strictEq]
  | null => cases b <;> simp [strictEq]
  | bool c => cases b <;> simp [strictEq]
  | text s => cases b <;> simp [strictEq]
  | date d => exact nomatch ha
  | dateTime t => exact nomatch ha
  | bytes bs => exact nomatch ha

theorem strictEq_symm {a b : Atom} (ha : a.isJson = true) (hb : b.isJson = true)
    (h : a.strictEq b = true) : b.strictEq a = true := by
  rcases (strictEq_iff ha).mp h with ⟨m, n, rfl, rfl, hmn⟩ | ⟨hne, rfl⟩
  · obtain ⟨p, hm, hn⟩ := Number.eq_iff.mp hmn
    exact Number.eq_iff.mpr ⟨p, hn, hm⟩
  · exact (strictEq_iff ha).mpr (Or.inr ⟨hne, rfl⟩)

theorem strictEq_trans {a b c : Atom} (ha : a.isJson = true) (hb : b.isJson = true)
    (hab : a.strictEq b = true) (hbc : b.strictEq c = true) : a.strictEq c = true := by
  rcases (strictEq_iff ha).mp hab with ⟨m, n, rfl, rfl, hmn⟩ | ⟨hne, rfl⟩
  · rcases (strictEq_iff hb).mp hbc with ⟨n', k, heq, rfl, hnk⟩ | ⟨hne, -⟩
    · obtain rfl := Atom.number.inj heq
      obtain ⟨p, hm, hn⟩ := Number.eq_iff.mp hmn
      obtain ⟨q, hn', hk⟩ := Number.eq_iff.mp hnk
      obtain rfl := Option.some.inj (hn.symm.trans hn')
      exact Number.eq_iff.mpr ⟨p, hm, hk⟩
    · exact absurd rfl (hne n)
  · exact hbc

end Atom

/-! ### Keys -/

theorem Atom.text_same (s : Text) (k : Atom) : (Atom.text s).same k = decide (k = .text s) := by
  rw [Bool.eq_iff_iff, decide_eq_true_eq]
  cases k with
  | text t =>
    rw [Atom.same_text, decide_eq_true_eq]
    exact ⟨Eq.symm, Eq.symm⟩
  | _ => simp [Atom.same, Atom.number?]

namespace Entries

/-- A mapping with text keys has the same keys as another when the same keys are written in
them. -/
theorem sameKeys_iff {xs ys : Entries} (hxs : ∀ p ∈ xs, p.1.isText = true) :
    sameKeys xs ys = true ↔ ∀ k, k ∈ xs.map Prod.fst ↔ k ∈ ys.map Prod.fst := by
  have hsame : ∀ x ∈ xs, ∀ k : Atom, x.1.same k = true ↔ k = x.1 := by
    intro x hx k
    obtain ⟨s, hs⟩ := Value.isText_iff.mp (hxs x hx)
    rw [hs, Atom.text_same, decide_eq_true_eq]
  simp only [sameKeys, Bool.and_eq_true, List.all_eq_true, List.any_eq_true, List.mem_map]
  constructor
  · rintro ⟨hleft, hright⟩ k
    constructor
    · rintro ⟨x, hx, rfl⟩
      obtain ⟨y, hy, hxy⟩ := hleft x hx
      exact ⟨y, hy, (hsame x hx _).mp hxy⟩
    · rintro ⟨y, hy, rfl⟩
      obtain ⟨x, hx, hxy⟩ := hright y hy
      exact ⟨x, hx, ((hsame x hx _).mp hxy).symm⟩
  · intro h
    constructor
    · intro x hx
      obtain ⟨y, hy, hyx⟩ := (h x.1).mp ⟨x, hx, rfl⟩
      exact ⟨y, hy, (hsame x hx _).mpr hyx⟩
    · intro y hy
      obtain ⟨x, hx, hxy⟩ := (h y.1).mpr ⟨y, hy, rfl⟩
      exact ⟨x, hx, (hsame x hx _).mpr hxy.symm⟩

end Entries

namespace Value

/-! ### What equals a value -/

theorem strictEq_atom {a : Atom} {v : Value} :
    (Value.atom a).strictEq v = true ↔ ∃ b, v = .atom b ∧ a.strictEq b = true := by
  cases v <;> simp [strictEq]

theorem strictEqItems_iff {xs ys : List Value} :
    strictEqItems xs ys = true ↔ xs.length = ys.length ∧
      ∀ (i : Nat) (x y : Value), xs[i]? = some x → ys[i]? = some y → x.strictEq y = true := by
  induction xs generalizing ys with
  | nil => cases ys <;> simp [strictEqItems]
  | cons x xs ih =>
    cases ys with
    | nil => simp [strictEqItems]
    | cons y ys =>
      rw [strictEqItems, Bool.and_eq_true, ih, List.length_cons, List.length_cons,
        Nat.add_right_cancel_iff]
      constructor
      · rintro ⟨hhead, hlength, htail⟩
        refine ⟨hlength, ?_⟩
        intro i x' y' hx hy
        cases i with
        | zero =>
          obtain rfl := Option.some.inj hx
          obtain rfl := Option.some.inj hy
          exact hhead
        | succ i => exact htail i x' y' hx hy
      · rintro ⟨hlength, hitems⟩
        exact ⟨hitems 0 x y rfl rfl, hlength, fun i x' y' hx hy => hitems (i + 1) x' y' hx hy⟩

/-- What equals a list: a list of the same length, equal item by item. -/
theorem strictEq_list {xs : List Value} {v : Value} :
    (Value.list xs).strictEq v = true ↔ ∃ ys, v = .list ys ∧ xs.length = ys.length ∧
      ∀ (i : Nat) (x y : Value), xs[i]? = some x → ys[i]? = some y → x.strictEq y = true := by
  cases v with
  | list ys =>
    show strictEqItems xs ys = true ↔ _
    simp [strictEqItems_iff]
  | _ => simp [strictEq]

theorem strictEqEntries_iff {xs ys : Entries} :
    strictEqEntries xs ys = true ↔
      ∀ p ∈ xs, ∃ w, Entries.get? p.1 ys = some w ∧ p.2.strictEq w = true := by
  induction xs with
  | nil => simp [strictEqEntries]
  | cons p xs ih =>
    obtain ⟨k, v⟩ := p
    rw [strictEqEntries, Bool.and_eq_true, ih, List.forall_mem_cons]
    refine and_congr_left fun _ => ?_
    cases Entries.get? k ys <;> simp

/-- What equals a mapping with text keys: a mapping in which the same keys are written, with equal
values under them. -/
theorem strictEq_map {xs : Entries} {v : Value} (hxs : ∀ p ∈ xs, p.1.isText = true) :
    (Value.map xs).strictEq v = true ↔ ∃ ys, v = .map ys ∧
      (∀ k, k ∈ xs.map Prod.fst ↔ k ∈ ys.map Prod.fst) ∧
      ∀ p ∈ xs, ∃ w, Entries.get? p.1 ys = some w ∧ p.2.strictEq w = true := by
  cases v with
  | map ys =>
    show (Entries.sameKeys xs ys && strictEqEntries xs ys) = true ↔ _
    rw [Bool.and_eq_true, Entries.sameKeys_iff hxs, strictEqEntries_iff]
    simp
  | _ => simp [strictEq]

/-! ### Symmetry and transitivity -/

/-- Equality of data is symmetric. -/
theorem strictEq_symm {a b : Value} (ha : a.isData = true) (hb : b.isData = true)
    (h : a.strictEq b = true) : b.strictEq a = true := by
  induction a using tree_induction generalizing b with
  | atom a =>
    obtain ⟨b, rfl, hab⟩ := strictEq_atom.mp h
    exact Atom.strictEq_symm ha hb hab
  | list xs ih =>
    obtain ⟨ys, rfl, hlength, hitems⟩ := strictEq_list.mp h
    refine strictEq_list.mpr ⟨xs, rfl, hlength.symm, ?_⟩
    intro i y x hy hx
    have hmemx := List.mem_of_getElem? hx
    exact ih x hmemx (isData_list.mp ha x hmemx) (isData_list.mp hb y (List.mem_of_getElem? hy))
      (hitems i x y hx hy)
  | map xs ih =>
    obtain ⟨hxs, hxsData⟩ := isData_map.mp ha
    obtain ⟨ys, rfl, hkeys, hvalues⟩ := (strictEq_map fun p hp => (hxsData p hp).1).mp h
    obtain ⟨hys, hysData⟩ := isData_map.mp hb
    refine (strictEq_map fun p hp => (hysData p hp).1).mpr ⟨xs, rfl, fun k => (hkeys k).symm, ?_⟩
    rintro ⟨k, w⟩ hw
    obtain ⟨s, rfl⟩ := isText_iff.mp (hysData _ hw).1
    -- the key is written in the first mapping, and its keys being different, only once
    obtain ⟨⟨_, v⟩, hv, rfl⟩ := List.mem_map.mp ((hkeys _).mpr (List.mem_map_of_mem hw))
    obtain ⟨w', hw', heq⟩ := hvalues _ hv
    obtain rfl := Option.some.inj (hw'.symm.trans ((Entries.get?_text_eq_some hys).mpr hw))
    exact ⟨v, (Entries.get?_text_eq_some hxs).mpr hv,
      ih _ hv (hxsData _ hv).2 (hysData _ hw).2 heq⟩
  | set members => exact nomatch ha
  | pair a b => exact nomatch ha

/-- Equality of data with any value is transitive. -/
theorem strictEq_trans {a b c : Value} (ha : a.isData = true) (hb : b.isData = true)
    (hab : a.strictEq b = true) (hbc : b.strictEq c = true) : a.strictEq c = true := by
  induction a using tree_induction generalizing b c with
  | atom a =>
    obtain ⟨b, rfl, hab⟩ := strictEq_atom.mp hab
    obtain ⟨c, rfl, hbc⟩ := strictEq_atom.mp hbc
    exact Atom.strictEq_trans ha hb hab hbc
  | list xs ih =>
    obtain ⟨ys, rfl, hxy, hitems⟩ := strictEq_list.mp hab
    obtain ⟨zs, rfl, hyz, hitems'⟩ := strictEq_list.mp hbc
    refine strictEq_list.mpr ⟨zs, rfl, hxy.trans hyz, ?_⟩
    intro i x z hx hz
    have hlt : i < ys.length := hxy ▸ (List.getElem?_eq_some_iff.mp hx).1
    have hy := List.getElem?_eq_getElem hlt
    have hmem := List.mem_of_getElem? hx
    exact ih x hmem (isData_list.mp ha x hmem) (isData_list.mp hb _ (List.getElem_mem hlt))
      (hitems i x _ hx hy) (hitems' i _ z hy hz)
  | map xs ih =>
    have hxs := (isData_map.mp ha).2
    obtain ⟨ys, rfl, hkeys, hvalues⟩ := (strictEq_map fun p hp => (hxs p hp).1).mp hab
    have hys := (isData_map.mp hb).2
    obtain ⟨zs, rfl, hkeys', hvalues'⟩ := (strictEq_map fun p hp => (hys p hp).1).mp hbc
    refine (strictEq_map fun p hp => (hxs p hp).1).mpr
      ⟨zs, rfl, fun k => (hkeys k).trans (hkeys' k), ?_⟩
    rintro ⟨k, v⟩ hv
    obtain ⟨s, rfl⟩ := isText_iff.mp (hxs _ hv).1
    obtain ⟨w, hw, hvw⟩ := hvalues _ hv
    have hmem := Entries.mem_of_get?_text hw
    obtain ⟨u, hu, hwu⟩ := hvalues' _ hmem
    exact ⟨u, hu, ih _ hv (hxs _ hv).2 (hys _ hmem).2 hvw hwu⟩
  | set members => exact nomatch ha
  | pair a b => exact nomatch ha

/-- Equal data are equal to the same values. -/
theorem strictEq_congr {a b : Value} (ha : a.isData = true) (hb : b.isData = true)
    (h : a.strictEq b = true) (v : Value) : a.strictEq v = b.strictEq v := by
  rw [Bool.eq_iff_iff]
  exact ⟨strictEq_trans hb ha (strictEq_symm ha hb h), strictEq_trans ha hb h⟩

end Value
end OfferRules

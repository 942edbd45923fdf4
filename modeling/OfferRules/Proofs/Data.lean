import OfferRules.Proofs.JsonValues

/-!
# Data

Data are values in JSON form whose mappings have no key twice, as documents and requests give them.
Values are trees, whose laws are proved by one induction over their parts.

## Main definitions

* `Value.isData` — a value is in JSON form, and no mapping in it has a key twice.
* `Value.isFlat` — a value has no mapping in it.

## Main results

* `Value.tree_induction` — **what holds of a value if it holds of its parts holds of all values.**
* `Value.isData_list`, `Value.isData_map` — which lists and mappings are data.
-/

namespace OfferRules.Value

/-! ### Induction -/

/-- What holds of a value if it holds of its parts holds of all values. -/
@[elab_as_elim]
theorem tree_induction {motive : Value → Prop} (atom : ∀ a, motive (.atom a))
    (list : ∀ items, (∀ v ∈ items, motive v) → motive (.list items))
    (map : ∀ entries, (∀ p ∈ entries, motive p.2) → motive (.map entries))
    (set : ∀ members, motive (.set members))
    (pair : ∀ a b, motive a → motive b → motive (.pair a b)) (v : Value) : motive v :=
  @Value.rec motive (fun items => ∀ v ∈ items, motive v) (fun entries => ∀ p ∈ entries, motive p.2)
    (fun p => motive p.2) atom list map set pair (fun _ h => nomatch h)
    (fun _ _ hv hrest => List.forall_mem_cons.mpr ⟨hv, hrest⟩) (fun _ h => nomatch h)
    (fun _ _ hp hrest => List.forall_mem_cons.mpr ⟨hp, hrest⟩) (fun _ _ hv => hv) v

/-! ### Data -/

mutual

/-- Whether a value is in JSON form, and no mapping in it has a key twice. -/
def isData : Value → Bool
  | .atom a => a.isJson
  | .list items => itemsData items
  | .map entries => decide (entries.map Prod.fst).Nodup && entriesData entries
  | .set _ => false
  | .pair _ _ => false
termination_by structural v => v

/-- Whether all items are data. -/
def itemsData : List Value → Bool
  | [] => true
  | v :: rest => isData v && itemsData rest
termination_by structural vs => vs

/-- Whether all entries have text keys and data as values. -/
def entriesData : List (Atom × Value) → Bool
  | [] => true
  | (k, v) :: rest => k.isText && isData v && entriesData rest
termination_by structural es => es

end

theorem isText_iff {k : Atom} : k.isText = true ↔ ∃ s, k = .text s := by
  cases k <;> simp [Atom.isText]

/-- A list is data when its items are. -/
theorem isData_list {items : List Value} :
    (Value.list items).isData = true ↔ ∀ v ∈ items, v.isData = true := by
  show itemsData items = true ↔ _
  induction items with
  | nil => simp [itemsData]
  | cons v rest ih => simp [itemsData, ih]

theorem entriesData_iff {es : Entries} :
    entriesData es = true ↔ ∀ p ∈ es, p.1.isText = true ∧ p.2.isData = true := by
  induction es with
  | nil => simp [entriesData]
  | cons p rest ih =>
    obtain ⟨k, v⟩ := p
    simp [entriesData, ih]

/-- A mapping is data when its keys are different texts and its values are data. -/
theorem isData_map {es : Entries} :
    (Value.map es).isData = true ↔
      (es.map Prod.fst).Nodup ∧ ∀ p ∈ es, p.1.isText = true ∧ p.2.isData = true := by
  show (decide (es.map Prod.fst).Nodup && entriesData es) = true ↔ _
  rw [Bool.and_eq_true, decide_eq_true_eq, entriesData_iff]

/-! ### Flat values -/

mutual

/-- Whether a value has no mapping in it. -/
def isFlat : Value → Bool
  | .list items => itemsFlat items
  | .map _ => false
  | .pair a b => isFlat a && isFlat b
  | _ => true
termination_by structural v => v

/-- Whether no item has a mapping in it. -/
def itemsFlat : List Value → Bool
  | [] => true
  | v :: rest => isFlat v && itemsFlat rest
termination_by structural vs => vs

end

theorem isFlat_list {items : List Value} :
    (Value.list items).isFlat = true ↔ ∀ v ∈ items, v.isFlat = true := by
  show itemsFlat items = true ↔ _
  induction items with
  | nil => simp [itemsFlat]
  | cons v rest ih => simp [itemsFlat, ih]

end OfferRules.Value

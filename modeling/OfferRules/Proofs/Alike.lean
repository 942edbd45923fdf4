import Mathlib.Data.List.Forall2
import OfferRules.Proofs.Documents
import OfferRules.Proofs.Entries

/-!
# Documents that are read alike

Two values are read alike when what is read from them stands in a relation, or when both have the
same issues.  All ways of reading a value from its parts keep this, and so does the order of rules,
which looks at nothing but their priorities.  So two documents whose entries are read alike give
rules alike.

## Main definitions

* `Alike` — outcomes in a relation, or the same failure.

## Main results

* `Alike.ap`, `Alike.items`, `Alike.optional` — reading values from parts that are read alike.
* `sortedBy_map`, `forall₂_byPriority` — the order of rules looks at priorities alone.
* `RuleSet.parse_alike` — **documents whose entries are read alike.**
-/

namespace OfferRules

variable {ε α β γ : Type}

/-- Two outcomes in a relation, or the same failure. -/
inductive Alike (R : α → β → Prop) : Except ε α → Except ε β → Prop where
  /-- Both have outcomes in the relation. -/
  | ok {a : α} {b : β} (h : R a b) : Alike R (.ok a) (.ok b)
  /-- Both fail in the same way. -/
  | error (e : ε) : Alike R (.error e) (.error e)

namespace Alike

theorem refl {R : α → α → Prop} (h : ∀ a, R a a) (x : Except ε α) : Alike R x x := by
  cases x with
  | ok a => exact .ok (h a)
  | error e => exact .error e

theorem trans {R : α → α → Prop} {x y z : Except ε α} (hxy : Alike R x y)
    (hR : ∀ a b c, R a b → R b c → R a c) (hyz : Alike R y z) : Alike R x z := by
  cases hxy with
  | ok hab =>
    cases hyz with
    | ok hbc => exact .ok (hR _ _ _ hab hbc)
  | error e => exact hyz

/-! ### Parts -/

theorem map {R : α → β → Prop} {S : γ → γ → Prop} {f : α → γ} {g : β → γ} {x : Except ε α}
    {y : Except ε β} (hx : Alike R x y) (h : ∀ a b, R a b → S (f a) (g b)) :
    Alike S (x.map f) (y.map g) := by
  cases hx with
  | ok hab => exact .ok (h _ _ hab)
  | error e => exact .error e

theorem under {R : α → β → Prop} {x : Checked α} {y : Checked β} (step : Step) (hx : Alike R x y) :
    Alike R (Checked.under step x) (Checked.under step y) := by
  cases hx with
  | ok hab => exact .ok hab
  | error e => exact .error _

/-- A function and its argument: the functions take related arguments to related values. -/
theorem ap {R : α → α → Prop} {S : β → β → Prop} {f g : Checked (α → β)} {x y : Checked α}
    (hx : Alike R x y) (hf : Alike (fun f g => ∀ a b, R a b → S (f a) (g b)) f g) :
    Alike S (Checked.ap f x) (Checked.ap g y) := by
  cases hf with
  | ok hfg =>
    cases hx with
    | ok hab => exact .ok (hfg _ _ hab)
    | error e => exact .error e
  | error e =>
    cases hx with
    | ok hab => exact .error e
    | error e' => exact .error _

theorem items {R : α → α → Prop} {read : Value → Checked α} {vs vs' : List Value}
    (h : List.Forall₂ (fun v v' => Alike R (read v) (read v')) vs vs') :
    Alike (List.Forall₂ R) (Checked.items read vs) (Checked.items read vs') := by
  unfold Checked.items
  generalize 0 = n
  induction h generalizing n with
  | nil => exact .ok .nil
  | cons hv hrest ih =>
    refine .ap (ih (n + 1)) ((hv.under (.index n)).map ?_)
    intro a b hab as bs hrest
    exact .cons hab hrest

theorem readNullable {R : α → α → Prop} {read : Value → Checked α} {v v' : Value}
    (hv : v.isNull = v'.isNull) (h : Alike R (read v) (read v')) :
    Alike (Option.Rel R) (readNullable read v) (readNullable read v') := by
  unfold OfferRules.readNullable
  rw [hv]
  split
  · exact .ok .none
  · exact h.map fun _ _ => .some

/-- Entries under the same one of some names are read alike when their values are. -/
theorem optional {R : α → α → Prop} {names : List Text} {default : α}
    {read : Value → Checked α} {es es' : Entries} {name : Text} {v v' : Value}
    (hv : Field.find? names es = some (name, v)) (hv' : Field.find? names es' = some (name, v'))
    (h : Alike R (read v) (read v')) :
    Alike R (Field.optional names default read es) (Field.optional names default read es') := by
  simp only [Field.optional, hv, hv']
  exact h.under (.key name)

end Alike

/-! ### An entry put in the place of another -/

namespace Field

theorem find?_cons (name : Text) (names : List Text) (es : Entries) :
    find? (name :: names) es = match Entries.get? (.text name) es with
      | some v => some (name, v)
      | none => find? names es := by
  unfold find?
  rw [List.findSome?_cons]
  cases Entries.get? (.text name) es <;> rfl

theorem mem_names_of_find? {names : List Text} {name : Text} {es : Entries} {v : Value}
    (h : find? names es = some (name, v)) : name ∈ names := by
  obtain ⟨first, hfirst, hv⟩ := List.exists_of_findSome?_eq_some h
  obtain ⟨_, -, heq⟩ := Option.map_eq_some_iff.mp hv
  obtain ⟨rfl, -⟩ := Prod.mk.inj heq
  exact hfirst

/-- The entry that is found is the one that was put in the place of the one found before. -/
theorem find?_insert_self {names : List Text} {name : Text} {es : Entries} {v : Value}
    (h : find? names es = some (name, v)) (w : Value) :
    find? names (es.insert (.text name) w) = some (name, w) := by
  induction names with
  | nil => cases h
  | cons first rest ih =>
    rw [find?_cons] at h ⊢
    by_cases hfirst : name = first
    · subst hfirst
      rw [Entries.get?_insert_self]
    · rw [Entries.get?_insert_of_ne hfirst]
      cases hget : Entries.get? (.text first) es with
      | none =>
        rw [hget] at h
        exact ih h
      | some v' =>
        rw [hget] at h
        obtain ⟨rfl, -⟩ := Prod.mk.inj (Option.some.inj h)
        contradiction

/-- An entry of another name is not looked at. -/
theorem find?_insert_of_not_mem {names : List Text} {name : Text} (h : name ∉ names)
    (es : Entries) (w : Value) : find? names (es.insert (.text name) w) = find? names es := by
  induction names with
  | nil => rfl
  | cons first rest ih =>
    rw [List.mem_cons, not_or] at h
    rw [find?_cons, find?_cons, Entries.get?_insert_of_ne h.1, ih h.2]

end Field

/-! ### The order -/

section

variable (f : α → β) (less : β → β → Bool)

theorem insertionPoint_map (items : Array α) (a : α) (lo hi : Nat) :
    insertionPoint less (items.map f) (f a) lo hi
      = insertionPoint (fun a b => less (f a) (f b)) items a lo hi := by
  fun_induction insertionPoint (fun a b => less (f a) (f b)) items a lo hi with
  | case1 lo hi hlt mid hless ih =>
    rw [insertionPoint, if_pos hlt, if_pos (by simpa [Option.any_map] using hless), ih]
  | case2 lo hi hlt mid hless ih =>
    rw [insertionPoint, if_pos hlt, if_neg (by simpa [Option.any_map] using hless), ih]
  | case3 lo hi hle => rw [insertionPoint, if_neg hle]

theorem insertSorted_map (items : List α) (a : α) :
    insertSorted less (items.map f) (f a)
      = (insertSorted (fun a b => less (f a) (f b)) items a).map f := by
  unfold insertSorted
  simp only [← List.map_toArray, insertionPoint_map, List.length_map, List.map_append,
    List.map_take, List.map_cons, List.map_drop]

theorem splitRun_map (descending : Bool) (last : α) (items : List α) :
    splitRun less descending (f last) (items.map f)
      = (splitRun (fun a b => less (f a) (f b)) descending last items).map (List.map f)
          (List.map f) := by
  induction items generalizing last with
  | nil => rfl
  | cons a rest ih =>
    rw [List.map_cons, splitRun, splitRun]
    split
    · rw [ih]
      rfl
    · rfl

theorem firstRun_map (items : List α) :
    firstRun less (items.map f)
      = (firstRun (fun a b => less (f a) (f b)) items).map (List.map f) (List.map f) := by
  match items with
  | [] => rfl
  | [a] => rfl
  | a :: b :: rest =>
    simp only [List.map_cons, firstRun, splitRun_map]
    split <;> simp [Prod.map]

/-- The order looks at the items in no way but by comparing them. -/
theorem sortedBy_map (items : List α) :
    sortedBy less (items.map f) = (sortedBy (fun a b => less (f a) (f b)) items).map f := by
  unfold sortedBy
  rw [firstRun_map]
  simp only [Prod.map, List.foldl_map]
  exact List.foldl_hom _ (insertSorted_map f less)

end

/-- Lists in a relation are the two sides of one list of pairs. -/
theorem exists_pairs {R : α → β → Prop} {as : List α} {bs : List β} (h : List.Forall₂ R as bs) :
    ∃ ps : List { p : α × β // R p.1 p.2 }, ps.map (fun p => p.1.1) = as ∧
      ps.map (fun p => p.1.2) = bs := by
  induction h with
  | nil => exact ⟨[], rfl, rfl⟩
  | cons hab hrest ih =>
    obtain ⟨ps, rfl, rfl⟩ := ih
    exact ⟨⟨(_, _), hab⟩ :: ps, rfl, rfl⟩

/-- Rules alike, of the same priorities, keep their places. -/
theorem forall₂_byPriority {R : Rule → Rule → Prop} (hR : ∀ r r', R r r' → r'.priority = r.priority)
    {rs rs' : List Rule} (h : List.Forall₂ R rs rs') :
    List.Forall₂ R (byPriority rs) (byPriority rs') := by
  obtain ⟨ps, rfl, rfl⟩ := exists_pairs h
  have hless : (fun p q : { p : Rule × Rule // R p.1 p.2 } => p.1.2.priority.lt q.1.2.priority)
      = fun p q => p.1.1.priority.lt q.1.1.priority := by
    funext p q
    rw [hR _ _ p.2, hR _ _ q.2]
  unfold byPriority
  rw [← List.map_reverse, ← List.map_reverse, sortedBy_map, sortedBy_map, hless]
  rw [List.forall₂_reverse_iff, List.forall₂_map_left_iff, List.forall₂_map_right_iff]
  exact List.forall₂_same.mpr fun p _ => p.2

/-! ### Documents -/

namespace RuleSet

theorem exists_map_of_entries? {doc : Value} {vs : List Value} (h : entries? doc = some vs) :
    ∃ es, doc = .map es := by
  cases doc with
  | map es => exact ⟨es, rfl⟩
  | atom a => cases h
  | list items => cases h
  | set members => cases h
  | pair a b => cases h

theorem ids_of_forall₂ {R : Rule → Rule → Prop} (hR : ∀ r r', R r r' → r'.id = r.id)
    {rs rs' : List Rule} (h : List.Forall₂ R rs rs') : rs'.map Rule.id = rs.map Rule.id := by
  induction h with
  | nil => rfl
  | cons hr hrest ih => rw [List.map_cons, List.map_cons, hR _ _ hr, ih]

theorem readRules_alike {R : Rule → Rule → Prop} (hid : ∀ r r', R r r' → r'.id = r.id)
    {es es' : Entries} {vs vs' : List Value} (hvs : entries? (.map es) = some vs)
    (hvs' : entries? (.map es') = some vs')
    (h : List.Forall₂ (fun v v' => Alike R (RuleDefinition.read v) (RuleDefinition.read v'))
      vs vs') :
    Alike (List.Forall₂ R) (readRules es) (readRules es') := by
  have hread := (Alike.items h).under (.key "rules")
  rw [← required_rules hvs, ← required_rules hvs'] at hread
  unfold readRules
  generalize Field.required ["rules"] (readList RuleDefinition.read) es = x at hread ⊢
  generalize Field.required ["rules"] (readList RuleDefinition.read) es' = y at hread ⊢
  cases hread with
  | error issues => exact .error _
  | ok hrules =>
    simp only [ids_of_forall₂ hid hrules]
    split
    · exact .error _
    · exact .ok hrules

/-- **Documents whose entries are read alike** give rules alike, or are refused for the same
reason. -/
theorem parse_alike {R : Rule → Rule → Prop} (hid : ∀ r r', R r r' → r'.id = r.id)
    (hpriority : ∀ r r', R r r' → r'.priority = r.priority) {doc doc' : Value} {vs vs' : List Value}
    (hvs : entries? doc = some vs) (hvs' : entries? doc' = some vs')
    (h : List.Forall₂ (fun v v' => Alike R (RuleDefinition.read v) (RuleDefinition.read v'))
      vs vs') :
    Alike (List.Forall₂ R) (parse doc) (parse doc') := by
  obtain ⟨es, rfl⟩ := exists_map_of_entries? hvs
  obtain ⟨es', rfl⟩ := exists_map_of_entries? hvs'
  have hread := readRules_alike hid hvs hvs' h
  rw [parse, parse]
  generalize readRules es = x at hread ⊢
  generalize readRules es' = y at hread ⊢
  cases hread with
  | ok hrules => exact .ok (forall₂_byPriority hpriority hrules)
  | error issues => exact .error _

end RuleSet
end OfferRules

import Mathlib.Data.List.Chain
import Mathlib.Data.List.Nodup
import Mathlib.Order.WithBot
import Mathlib.Order.ConditionallyCompleteLattice.Basic
import Mathlib.Data.Int.ConditionallyCompleteOrder
import OfferRules.RuleSet.Order

/-!
# The order of rules is stable

Where the comparison is that of a key, halving finds the place behind all items that are not
greater, and the order made by insertion is stable: it is ascending by the key, and items of one
key stand as they stood before.  There is only one such order of items that are all different, so
one more item takes a place of its own and leaves the order of the others alone.

## Main definitions

* `StableOrder` — a list holds some items by a key, those of one key as they stood.
* `Number.rank` — the place of a number on the extended line.

## Main results

* `perm_byPriority` — the order of rules holds the rules.
* `insertionPoint_spec` — the place found by halving.
* `StableOrder.insertSorted`, `stableOrder_sortedBy` — one insertion, and the whole order.
* `StableOrder.unique` — there is only one stable order.
* `byPriority_insert` — **one more rule leaves the order of the others alone.**
-/

namespace OfferRules

variable {α κ : Type}

/-! ### The items are kept -/

/-- A run goes on as it began, and with what comes after it it makes up the list. -/
theorem splitRun_spec (less : α → α → Bool) (descending : Bool) (last : α) (items : List α) :
    items = (splitRun less descending last items).1 ++ (splitRun less descending last items).2 ∧
      List.IsChain (fun a b => less b a = descending)
        (last :: (splitRun less descending last items).1) := by
  induction items generalizing last with
  | nil => simp [splitRun]
  | cons a rest ih =>
    by_cases h : less a last = descending
    · rw [splitRun, if_pos h]
      exact ⟨congrArg (a :: ·) (ih a).1, List.isChain_cons_cons.mpr ⟨h, (ih a).2⟩⟩
    · rw [splitRun, if_neg h]
      exact ⟨rfl, List.isChain_singleton last⟩

theorem perm_insertSorted (less : α → α → Bool) (items : List α) (a : α) :
    (insertSorted less items a).Perm (items ++ [a]) := by
  unfold insertSorted
  dsimp only
  refine List.perm_middle.trans ?_
  rw [List.take_append_drop]
  exact (List.perm_append_singleton a items).symm

theorem perm_firstRun (less : α → α → Bool) (items : List α) :
    ((firstRun less items).1 ++ (firstRun less items).2).Perm items := by
  match items with
  | [] => exact .refl []
  | [a] => exact .refl [a]
  | a :: b :: rest =>
    have hsplit := congrArg (fun rest => a :: b :: rest) (splitRun_spec less (less b a) b rest).1
    unfold firstRun
    dsimp only
    split
    · refine ((List.reverse_perm _).append_right _).trans ?_
      exact .of_eq hsplit.symm
    · exact .of_eq hsplit.symm

theorem perm_foldl_insertSorted (less : α → α → Bool) (others items : List α) :
    (others.foldl (insertSorted less) items).Perm (items ++ others) := by
  induction others generalizing items with
  | nil => simp
  | cons a rest ih =>
    refine (ih (insertSorted less items a)).trans ?_
    rw [List.append_cons]
    exact (perm_insertSorted less items a).append_right rest

/-- The order of a list holds its items. -/
theorem perm_sortedBy (less : α → α → Bool) (items : List α) :
    (sortedBy less items).Perm items :=
  (perm_foldl_insertSorted less _ _).trans (perm_firstRun less items)

/-- The order of rules holds the rules. -/
theorem perm_byPriority (rs : List Rule) : (byPriority rs).Perm rs :=
  (List.reverse_perm _).trans ((perm_sortedBy _ _).trans rs.reverse_perm)

/-! ### Stable orders -/

variable [LinearOrder κ] {key : α → κ}

/-- A list holds some items in ascending order of a key, those of one key as they stood. -/
structure StableOrder (key : α → κ) (items sorted : List α) : Prop where
  /-- The items are those that were there. -/
  perm : sorted.Perm items
  /-- They ascend, and what stands before an item of the same key stood before it. -/
  ordered : sorted.Pairwise fun a b => key a ≤ key b ∧ (key a = key b → [a, b].Sublist items)

/-! ### Halving -/

section Insertion

variable {less : α → α → Bool} {P : α → Prop}
  (hless : ∀ a b, P a → P b → (less a b = true ↔ key a < key b))
include hless

/-- The place found by halving stands behind the items that are not greater and before those
that are. -/
theorem insertionPoint_spec {items : List α} (hP : ∀ b ∈ items, P b)
    (hsorted : items.Pairwise fun b c => key b ≤ key c) {a : α} (ha : P a) (lo hi : Nat)
    (hle : lo ≤ hi) (hhi : hi ≤ items.length)
    (hbefore : ∀ j (h : j < items.length), j < lo → key items[j] ≤ key a)
    (hbehind : ∀ j (h : j < items.length), hi ≤ j → key a < key items[j]) :
    insertionPoint less items.toArray a lo hi ≤ items.length ∧
    (∀ j (h : j < items.length), j < insertionPoint less items.toArray a lo hi →
      key items[j] ≤ key a) ∧
    ∀ j (h : j < items.length), insertionPoint less items.toArray a lo hi ≤ j →
      key a < key items[j] := by
  have hmono : ∀ i j (hi : i < items.length) (hj : j < items.length), i ≤ j →
      key items[i] ≤ key items[j] := by
    intro i j hi hj hij
    rcases Nat.eq_or_lt_of_le hij with rfl | hlt
    · exact le_rfl
    · exact List.pairwise_iff_getElem.mp hsorted i j hi hj hlt
  -- induction on how many places are left, which halving makes fewer
  induction hn : hi - lo using Nat.strong_induction_on generalizing lo hi with
  | _ n ih =>
    rw [insertionPoint]
    by_cases hlt : lo < hi
    · rw [if_pos hlt]
      have hmid : lo + (hi - lo) / 2 < items.length := by omega
      dsimp only
      by_cases hcmp : less a items[lo + (hi - lo) / 2] = true
      · -- the middle item is greater, so the place is not behind it
        have hgt := (hless _ _ ha (hP _ (List.getElem_mem hmid))).mp hcmp
        rw [if_pos (by simp [hmid, hcmp])]
        refine ih _ (by omega) lo _ (by omega) (by omega) hbefore ?_ rfl
        intro j hj hle
        exact hgt.trans_le (hmono _ _ hmid hj hle)
      · -- it is not, so the place is behind it
        have hngt : key items[lo + (hi - lo) / 2] ≤ key a :=
          not_lt.mp fun h => hcmp ((hless _ _ ha (hP _ (List.getElem_mem hmid))).mpr h)
        rw [if_neg (by simp [hmid, hcmp])]
        refine ih _ (by omega) _ hi (by omega) hhi ?_ hbehind rfl
        intro j hj hlt
        exact (hmono j _ hj hmid (by omega)).trans hngt
    · rw [if_neg hlt]
      exact ⟨by omega, hbefore, fun j hj hle => hbehind j hj (by omega)⟩

/-- An item put among sorted ones stands between those that are not greater and those that
are. -/
theorem insertSorted_spec {items : List α} (hP : ∀ b ∈ items, P b)
    (hsorted : items.Pairwise fun b c => key b ≤ key c) {a : α} (ha : P a) :
    ∃ before behind, items = before ++ behind ∧ insertSorted less items a = before ++ a :: behind ∧
      (∀ b ∈ before, key b ≤ key a) ∧ ∀ b ∈ behind, key a < key b := by
  obtain ⟨hi, hbefore, hbehind⟩ := insertionPoint_spec hless hP hsorted ha 0 items.length
    (Nat.zero_le _) le_rfl (by omega) (by omega)
  refine ⟨_, _, (List.take_append_drop _ items).symm, rfl, ?_, ?_⟩
  · intro b hb
    obtain ⟨j, hj, rfl⟩ := List.mem_take_iff_getElem.mp hb
    exact hbefore j (by omega) (by omega)
  · intro b hb
    obtain ⟨j, hj, rfl⟩ := List.mem_drop_iff_getElem.mp hb
    exact hbehind _ (by omega) (by omega)

/-- **One insertion** of the next item keeps the order stable. -/
theorem StableOrder.insertSorted {items sorted : List α} (h : StableOrder key items sorted)
    (hP : ∀ b ∈ items, P b) {a : α} (ha : P a) :
    StableOrder key (items ++ [a]) (insertSorted less sorted a) := by
  obtain ⟨before, behind, hsplit, hinsert, hbefore, hbehind⟩ := insertSorted_spec hless
    (fun b hb => hP b (h.perm.mem_iff.mp hb)) (h.ordered.imp And.left) ha
  have hordered := h.ordered
  have hmem : ∀ b ∈ before, b ∈ items := by
    intro b hb
    exact h.perm.mem_iff.mp (hsplit ▸ List.mem_append_left behind hb)
  rw [hsplit, List.pairwise_append] at hordered
  obtain ⟨hfirst, hlast, hacross⟩ := hordered
  have hwider : ∀ b c, (key b ≤ key c ∧ (key b = key c → [b, c].Sublist items)) →
      key b ≤ key c ∧ (key b = key c → [b, c].Sublist (items ++ [a])) := by
    intro b c hbc
    exact ⟨hbc.1, fun heq => (hbc.2 heq).trans (List.sublist_append_left items [a])⟩
  rw [hinsert]
  constructor
  · rw [← hinsert]
    exact (perm_insertSorted less sorted a).trans (h.perm.append_right [a])
  · rw [List.pairwise_append, List.pairwise_cons]
    refine ⟨hfirst.imp (hwider _ _), ⟨?_, hlast.imp (hwider _ _)⟩, ?_⟩
    · intro c hc
      exact ⟨(hbehind c hc).le, fun heq => absurd heq (hbehind c hc).ne⟩
    · intro b hb c hc
      rcases List.mem_cons.mp hc with rfl | hc
      · -- the new item is the last one of the list, so all of its key stood before it
        refine ⟨hbefore b hb, fun _ => ?_⟩
        exact (List.singleton_sublist.mpr (hmem b hb)).append (List.Sublist.refl [c])
      · exact hwider b c (hacross b hb c hc)

/-! ### The whole order -/

theorem pairwise_of_ascending {items : List α} (hP : ∀ b ∈ items, P b)
    (h : List.IsChain (fun a b => less b a = false) items) :
    items.Pairwise fun a b => key a ≤ key b := by
  have : IsTrans α fun a b => key a ≤ key b := ⟨fun _ _ _ => le_trans⟩
  refine (h.imp_of_mem_imp fun a b ha hb hab => ?_).pairwise
  rw [← not_lt]
  intro hlt
  rw [(hless b a (hP b hb) (hP a ha)).mpr hlt] at hab
  exact nomatch hab

theorem pairwise_of_descending {items : List α} (hP : ∀ b ∈ items, P b)
    (h : List.IsChain (fun a b => less b a = true) items) :
    items.Pairwise fun a b => key b < key a := by
  have : IsTrans α fun a b => key b < key a := ⟨fun _ _ _ hab hbc => hbc.trans hab⟩
  exact (h.imp_of_mem_imp fun a b ha hb hab => (hless b a (hP b hb) (hP a ha)).mp hab).pairwise

omit hless in
theorem StableOrder.of_ascending {items : List α} (h : items.Pairwise fun a b => key a ≤ key b) :
    StableOrder key items items :=
  ⟨.refl items, List.pairwise_iff_forall_sublist.mpr fun hab =>
    ⟨List.pairwise_iff_forall_sublist.mp h hab, fun _ => hab⟩⟩

omit hless in
theorem StableOrder.of_descending {items : List α} (h : items.Pairwise fun a b => key b < key a) :
    StableOrder key items items.reverse :=
  ⟨items.reverse_perm, List.pairwise_reverse.mpr
    (h.imp fun hab => ⟨hab.le, fun heq => absurd heq hab.ne⟩)⟩

/-- The first run is a stable order of the items that it takes from the list. -/
theorem firstRun_spec {items : List α} (hP : ∀ b ∈ items, P b) :
    ∃ taken, items = taken ++ (firstRun less items).2 ∧
      StableOrder key taken (firstRun less items).1 := by
  match items with
  | [] => exact ⟨[], rfl, .of_ascending .nil⟩
  | [a] => exact ⟨[a], rfl, .of_ascending (List.pairwise_singleton _ a)⟩
  | a :: b :: rest =>
    obtain ⟨hsplit, hchain⟩ := splitRun_spec less (less b a) b rest
    have hrun : List.IsChain (fun c d => less d c = less b a)
        (a :: b :: (splitRun less (less b a) b rest).1) :=
      List.isChain_cons_cons.mpr ⟨rfl, hchain⟩
    have hmem : ∀ c ∈ a :: b :: (splitRun less (less b a) b rest).1, P c := by
      intro c hc
      refine hP c ?_
      rw [hsplit]
      exact List.mem_append_left _ hc
    refine ⟨a :: b :: (splitRun less (less b a) b rest).1, ?_, ?_⟩
    · exact congrArg (fun rest => a :: b :: rest) hsplit
    · -- the run is kept if it ascends, and turned round if it strictly descends
      unfold firstRun
      dsimp only
      cases hd : less b a with
      | true =>
        rw [hd] at hrun hmem
        exact .of_descending (pairwise_of_descending hless hmem hrun)
      | false =>
        rw [hd] at hrun hmem
        exact .of_ascending (pairwise_of_ascending hless hmem hrun)

theorem StableOrder.foldl_insertSorted {others : List α} {items sorted : List α}
    (h : StableOrder key items sorted) (hP : ∀ b ∈ items ++ others, P b) :
    StableOrder key (items ++ others) (others.foldl (OfferRules.insertSorted less) sorted) := by
  induction others generalizing items sorted with
  | nil => rwa [List.append_nil]
  | cons a rest ih =>
    have hnext := h.insertSorted hless (fun b hb => hP b (List.mem_append_left _ hb))
      (hP a (List.mem_append_right _ List.mem_cons_self))
    have hsplit : items ++ a :: rest = items ++ [a] ++ rest := by simp
    rw [hsplit] at hP ⊢
    exact ih hnext hP

/-- The order made by insertion is stable. -/
theorem stableOrder_sortedBy {items : List α} (hP : ∀ b ∈ items, P b) :
    StableOrder key items (sortedBy less items) := by
  obtain ⟨taken, hsplit, htaken⟩ := firstRun_spec hless hP
  have hwhole := htaken.foldl_insertSorted hless (hsplit ▸ hP)
  rwa [← hsplit] at hwhole

end Insertion

/-! ### There is one stable order -/

omit [LinearOrder κ] in
/-- Of two items of a list without repetitions, one stands before the other. -/
theorem not_sublist_pair {items : List α} (h : items.Nodup) {a b : α}
    (hab : [a, b].Sublist items) (hba : [b, a].Sublist items) : False := by
  induction items with
  | nil => exact nomatch hab
  | cons c rest ih =>
    rw [List.nodup_cons] at h
    rcases List.sublist_cons_iff.mp hab with hrest | ⟨_, heq, hb⟩
    · rcases List.sublist_cons_iff.mp hba with hrest' | ⟨_, heq', -⟩
      · exact ih h.2 hrest hrest'
      · obtain ⟨rfl, -⟩ := List.cons.inj heq'
        exact h.1 (hrest.subset (List.mem_cons_of_mem a List.mem_cons_self))
    · obtain ⟨rfl, rfl⟩ := List.cons.inj heq
      rcases List.sublist_cons_iff.mp hba with hrest | ⟨_, heq', -⟩
      · exact h.1 (hrest.subset (List.mem_cons_of_mem b List.mem_cons_self))
      · obtain ⟨rfl, -⟩ := List.cons.inj heq'
        exact h.1 (List.singleton_sublist.mp hb)

omit [LinearOrder κ] in
/-- What a list holds besides one of its items, it holds without that item. -/
theorem sublist_of_not_mem {before behind items : List α} {a : α}
    (h : items.Sublist (before ++ a :: behind)) (ha : a ∉ items) :
    items.Sublist (before ++ behind) := by
  obtain ⟨first, last, rfl, hfirst, hlast⟩ := List.sublist_append_iff.mp h
  refine hfirst.append ?_
  rcases List.sublist_cons_iff.mp hlast with hlast | ⟨_, rfl, -⟩
  · exact hlast
  · exact absurd (List.mem_append_right first List.mem_cons_self) ha

/-- There is only one stable order of items that are all different. -/
theorem StableOrder.unique {items sorted sorted' : List α} (hitems : items.Nodup)
    (h : StableOrder key items sorted) (h' : StableOrder key items sorted') :
    sorted = sorted' := by
  refine List.Perm.eq_of_pairwise ?_ h.ordered h'.ordered (h.perm.trans h'.perm.symm)
  intro a b _ _ hab hba
  -- two items that change places have one key, and each would have stood before the other
  have heq := le_antisymm hab.1 hba.1
  exact (not_sublist_pair hitems (hab.2 heq) (hba.2 heq.symm)).elim

/-- One more item takes a place of its own in a stable order. -/
theorem StableOrder.insert {before behind sorted sorted' : List α} {a : α}
    (hitems : (before ++ a :: behind).Nodup)
    (h : StableOrder key (before ++ behind) sorted)
    (h' : StableOrder key (before ++ a :: behind) sorted') :
    ∃ first last, sorted' = first ++ a :: last ∧ sorted = first ++ last := by
  obtain ⟨first, last, rfl⟩ := List.append_of_mem (h'.perm.mem_iff.mpr
    (List.mem_append_right before List.mem_cons_self))
  have hperm : (a :: (first ++ last)).Perm (a :: (before ++ behind)) :=
    (List.perm_middle.symm.trans h'.perm).trans List.perm_middle
  have hnodup : (a :: (before ++ behind)).Nodup := List.perm_middle.nodup_iff.mp hitems
  have ha : a ∉ first ++ last := (List.nodup_cons.mp (hperm.nodup_iff.mpr hnodup)).1
  have hrest : StableOrder key (before ++ behind) (first ++ last) := by
    refine ⟨hperm.cons_inv, ?_⟩
    have hordered := h'.ordered.sublist
      ((List.Sublist.refl first).append (List.sublist_cons_self a last))
    refine hordered.imp_of_mem ?_
    intro b c hb hc hbc
    refine ⟨hbc.1, fun heq => sublist_of_not_mem (hbc.2 heq) ?_⟩
    intro hmem
    rcases List.mem_pair.mp hmem with rfl | rfl
    · exact ha hb
    · exact ha hc
  exact ⟨first, last, rfl, h.unique (List.nodup_cons.mp hnodup).2 hrest⟩

/-! ### Ranks -/

/-- A place on the line as a whole number with two ends. -/
def Place.level : Place → WithBot (WithTop Int)
  | bottom => ⊥
  | units n => ((n : WithTop Int) : WithBot (WithTop Int))
  | top => ((⊤ : WithTop Int) : WithBot (WithTop Int))

theorem Place.lt_iff_level (p q : Place) : p.lt q = true ↔ p.level < q.level := by
  cases p <;> cases q <;> simp [Place.lt, Place.le, Place.level, -WithBot.coe_top]

/-- The place of a number on the line with two ends; not-a-number has the lowest. -/
def Number.rank (n : Number) : WithBot (WithTop Int) := (n.place?.map Place.level).getD ⊥

/-- Numbers compare as their ranks do. -/
theorem Number.lt_iff_rank {m n : Number} (hm : m ≠ .double .nan) (hn : n ≠ .double .nan) :
    m.lt n = true ↔ m.rank < n.rank := by
  obtain ⟨p, hp⟩ := Option.isSome_iff_exists.mp (Number.place?_isSome hm)
  obtain ⟨q, hq⟩ := Option.isSome_iff_exists.mp (Number.place?_isSome hn)
  simp only [Number.lt, Number.rank, hp, hq, Option.map_some, Option.getD_some]
  exact p.lt_iff_level q

/-! ### Rules -/

/-- The order of rules, read from its end, is a stable one by their priority. -/
theorem stableOrder_byPriority {rs : List Rule} (h : ∀ r ∈ rs, r.priority ≠ .double .nan) :
    StableOrder (fun r : Rule => r.priority.rank) rs.reverse (byPriority rs).reverse := by
  have hless : ∀ a b : Rule, a.priority ≠ .double .nan → b.priority ≠ .double .nan →
      (a.priority.lt b.priority = true ↔ a.priority.rank < b.priority.rank) :=
    fun _ _ ha hb => Number.lt_iff_rank ha hb
  rw [byPriority, List.reverse_reverse]
  exact stableOrder_sortedBy hless fun r hr => h r (List.mem_reverse.mp hr)

/-- **One more rule leaves the order of the others alone**, wherever it is written, and has a place
of its own among them. -/
theorem byPriority_insert {before behind : List Rule} {r : Rule}
    (hnodup : (before ++ r :: behind).Nodup)
    (h : ∀ r' ∈ before ++ r :: behind, r'.priority ≠ .double .nan) :
    ∃ first last, byPriority (before ++ r :: behind) = first ++ r :: last ∧
      byPriority (before ++ behind) = first ++ last := by
  have hsub : (before ++ behind).Sublist (before ++ r :: behind) :=
    (List.Sublist.refl before).append (List.sublist_cons_self r behind)
  have hwith := stableOrder_byPriority h
  have hwithout := stableOrder_byPriority fun r' hr' => h r' (hsub.subset hr')
  have hnodup' := List.nodup_reverse.mpr hnodup
  simp only [List.reverse_append, List.reverse_cons, List.append_assoc,
    List.singleton_append] at hwith hwithout hnodup'
  obtain ⟨last, first, hw, hwo⟩ := StableOrder.insert hnodup' hwithout hwith
  refine ⟨first.reverse, last.reverse, ?_, ?_⟩
  · rw [← List.reverse_inj, hw]
    simp
  · rw [← List.reverse_inj, hwo]
    simp

end OfferRules

import OfferRules.Proofs.Alike
import OfferRules.Proofs.Isolation
import OfferRules.Proofs.Ranking
import OfferRules.Proofs.StrictEquality

/-!
# The order in which rules are written

The order of the entries of a document matters among rules of one priority and nowhere else.
Whether the document is read does not depend on it, nor do the rules.  Where any two priorities
compare, the priorities stand in one sequence whatever the order of the entries, and the rules of
each priority are the same ones; so the rule that wins for a player has the same priority, and where
no two priorities are equal all rules stand as they did.

## Main definitions

* `Rule.Compares` — the priority of one of two rules is greater, or both are equal.
* `Descending` — rules stand by descending priority.

## Main results

* `exists_parse_of_perm` — the rules of a document with its entries in another order.
* `map_place?_eq_of_perm`, `find?_place?_eq_of_perm` — rules in two descending orders.
* `eq_of_perm` — there is one descending order of rules whose priorities are all different.
* `RuleSet.parse_perm` — **the order of entries matters among equal priorities alone.**
-/

namespace OfferRules

variable {rs rs' : List Rule}

/-! ### Priorities that compare -/

/-- The priority of one of two rules is greater, or both are equal. -/
def Rule.Compares (a b : Rule) : Prop :=
  a.priority.lt b.priority = true ∨ b.priority.lt a.priority = true ∨
    a.priority.eq b.priority = true

instance (a b : Rule) : Decidable (a.Compares b) := inferInstanceAs (Decidable (_ ∨ _ ∨ _))

/-- A priority that is not a number compares with none. -/
theorem Rule.Compares.ne_nan {a b : Rule} (h : a.Compares b) :
    a.priority ≠ .double .nan ∧ b.priority ≠ .double .nan := by
  constructor
  · intro ha
    rw [Compares, ha, Number.nan_not_lt, Number.not_lt_nan] at h
    exact nomatch h
  · intro hb
    rw [Compares, hb, Number.nan_not_lt, Number.not_lt_nan] at h
    rcases h with h | h | h
    · exact nomatch h
    · exact nomatch h
    · obtain ⟨p, -, hp⟩ := Number.eq_iff.mp h
      exact nomatch hp

/-- Where any two priorities compare, all of them are numbers, or there is one rule at most. -/
theorem ne_nan_or_length_le (h : rs.Pairwise Rule.Compares) :
    (∀ r ∈ rs, r.priority ≠ .double .nan) ∨ rs.length ≤ 1 := by
  match rs with
  | [] => exact Or.inr (Nat.zero_le 1)
  | [a] => exact Or.inr le_rfl
  | a :: b :: rest =>
    left
    have hall := (List.pairwise_cons.mp h).1
    rw [List.forall_mem_cons]
    exact ⟨(hall b List.mem_cons_self).ne_nan.1, fun r hr => (hall r hr).ne_nan.2⟩

/-! ### Descending orders -/

/-- Rules stand by descending priority. -/
def Descending (rs : List Rule) : Prop := rs.Pairwise fun a b => b.priority.rank ≤ a.priority.rank

theorem descending_byPriority {rules : List Rule} (h : ∀ r ∈ rules, r.priority ≠ .double .nan) :
    Descending (byPriority rules) := by
  have hordered := (stableOrder_byPriority h).ordered
  rw [List.pairwise_reverse] at hordered
  exact hordered.imp And.left

/-- Priorities of one rank are at one place. -/
theorem Number.place?_eq_of_rank {m n : Number} (hm : m ≠ .double .nan) (hn : n ≠ .double .nan)
    (h : m.rank = n.rank) : m.place? = n.place? := by
  obtain ⟨p, hp⟩ := Option.isSome_iff_exists.mp (Number.place?_isSome hm)
  obtain ⟨q, hq⟩ := Option.isSome_iff_exists.mp (Number.place?_isSome hn)
  simp only [rank, hp, hq, Option.map_some, Option.getD_some] at h
  rw [hp, hq, Place.level_injective h]

/-- Two descending orders of some rules have one sequence of priorities. -/
theorem map_place?_eq_of_perm (hperm : rs.Perm rs') (hnan : ∀ r ∈ rs, r.priority ≠ .double .nan)
    (h : Descending rs) (h' : Descending rs') :
    rs.map (fun r => r.priority.place?) = rs'.map fun r => r.priority.place? := by
  refine @List.Perm.eq_of_pairwise _
    (fun p q : Option Place => (q.map Place.level).getD ⊥ ≤ (p.map Place.level).getD ⊥) _ _ ?_
    (h.map _ fun _ _ hab => hab) (h'.map _ fun _ _ hab => hab) (hperm.map _)
  intro p q hp hq hpq hqp
  obtain ⟨r, hr, rfl⟩ := List.mem_map.mp hp
  obtain ⟨r', hr', rfl⟩ := List.mem_map.mp hq
  exact Number.place?_eq_of_rank (hnan r hr) (hnan r' (hperm.mem_iff.mpr hr')) (le_antisymm hqp hpq)

/-- The first rules that pass a test, of two descending orders of some rules, are of one
priority. -/
theorem find?_place?_eq_of_perm (test : Rule → Bool) (hperm : rs.Perm rs')
    (hnan : ∀ r ∈ rs, r.priority ≠ .double .nan) (h : Descending rs) (h' : Descending rs') :
    (rs.find? test).map (fun r => r.priority.place?)
      = (rs'.find? test).map fun r => r.priority.place? := by
  have hmap := map_place?_eq_of_perm (hperm.filter test)
    (fun r hr => hnan r (List.mem_of_mem_filter hr)) (h.filter test) (h'.filter test)
  rw [← List.head?_filter, ← List.head?_filter, ← List.head?_map, hmap, List.head?_map]

/-- There is one descending order of rules whose priorities are all different. -/
theorem eq_of_perm (hperm : rs.Perm rs') (hnan : ∀ r ∈ rs, r.priority ≠ .double .nan)
    (h : Descending rs) (h' : Descending rs')
    (hne : rs.Pairwise fun a b => a.priority.eq b.priority = false) : rs = rs' := by
  -- so no two rules are of one rank, and neither order has a choice
  have hranks : rs.Pairwise fun a b => a.priority.rank ≠ b.priority.rank := by
    refine hne.imp_of_mem ?_
    intro a b ha hb hab heq
    rw [(Number.eq_iff_rank (hnan a ha) (hnan b hb)).mpr heq] at hab
    exact nomatch hab
  have : Std.Symm fun a b : Rule => a.priority.rank ≠ b.priority.rank := ⟨fun _ _ => Ne.symm⟩
  refine List.Perm.eq_of_pairwise ?_ h h' hperm
  intro a b ha hb hab hba
  by_contra hdiff
  exact hranks.forall ha (hperm.mem_iff.mpr hb) hdiff (le_antisymm hba hab)

/-! ### Winners -/

/-- Who wins does not depend on the order of the rules, as far as its priority goes. -/
theorem winner?_place?_eq_of_perm (gates : List Gate) (now : DateTime) (x : Value)
    (hperm : rs.Perm rs') (hnan : ∀ r ∈ rs, r.priority ≠ .double .nan) (h : Descending rs)
    (h' : Descending rs') :
    (winner? gates now x rs).map (fun r => r.priority.place?)
      = (winner? gates now x rs').map fun r => r.priority.place? := by
  have hfails : (∀ r ∈ rs, ¬ r.Fails gates now x) ↔ ∀ r ∈ rs', ¬ r.Fails gates now x := by
    simp only [hperm.mem_iff]
  unfold winner?
  simp only [hfails]
  split
  · exact find?_place?_eq_of_perm _ hperm hnan h h'
  · rfl

/-! ### Documents -/

namespace RuleSet

variable {doc doc' : Value} {vs vs' : List Value}

/-- A document is read where one with its entries in another order is, and gives the same rules. -/
theorem exists_parse_of_perm (hvs : entries? doc = some vs) (hvs' : entries? doc' = some vs')
    (hperm : vs'.Perm vs) (h : parse doc = .ok rs) :
    ∃ rules rules', rules'.Perm rules ∧ rs = byPriority rules ∧
      parse doc' = .ok (byPriority rules') := by
  obtain ⟨es, rfl⟩ := exists_map_of_entries? hvs
  obtain ⟨es', rfl⟩ := exists_map_of_entries? hvs'
  obtain ⟨rules, hrules, hids, rfl⟩ := (parse_eq_ok hvs).mp h
  obtain ⟨rules', hrules', hsame⟩ := exists_rules_of_perm hperm hrules
  have hids' : (rules'.map Rule.id).Nodup := (hsame.map Rule.id).nodup_iff.mpr hids
  exact ⟨rules, rules', hsame, rfl, (parse_eq_ok hvs').mpr ⟨rules', hrules', hids', rfl⟩⟩

/-- There is one order of one item at most. -/
theorem eq_of_perm_of_length_le (hperm : rs.Perm rs') (h : rs.length ≤ 1) : rs = rs' := by
  cases rs with
  | nil => exact hperm.nil_eq
  | cons a rest =>
    obtain rfl : rest = [] := List.length_eq_zero_iff.mp (by simpa using h)
    exact (List.perm_singleton.mp hperm.symm).symm

/-- **The order of entries matters among equal priorities alone.**  Where the entries of two
documents are the same but for their order, both are read or neither.  If both are and any two
priorities compare, the priorities of both stand in one sequence, the rules of each priority are the
same, and the rules that win for a player have the same priority.  If moreover no two priorities are
equal, the rules of both are the same ones in the same order, and by the strategy that takes the
first rule every player is given the same one, whatever the gates. -/
theorem parse_perm (hvs : entries? doc = some vs) (hvs' : entries? doc' = some vs')
    (hperm : vs.Perm vs') :
    ((∃ rs, parse doc = .ok rs) ↔ ∃ rs', parse doc' = .ok rs') ∧
    ∀ rs rs', parse doc = .ok rs → parse doc' = .ok rs' → rs.Pairwise Rule.Compares →
      (rs.map (fun r => r.priority.place?) = rs'.map fun r => r.priority.place?) ∧
      (∀ p, (rs.filter fun r => r.priority.place? = p).Perm
        (rs'.filter fun r => r.priority.place? = p)) ∧
      (∀ gates now x, (winner? gates now x rs).map (fun r => r.priority.place?)
        = (winner? gates now x rs').map fun r => r.priority.place?) ∧
      ((rs.Pairwise fun a b => a.priority.eq b.priority = false) → rs = rs' ∧
        ∀ gates draws loaded loaded' now x,
          (Engine.ofDocument doc gates draws loaded).choose now x
            = (Engine.ofDocument doc' gates draws loaded').choose now x) := by
  refine ⟨⟨?_, ?_⟩, ?_⟩
  · rintro ⟨rs, hrs⟩
    obtain ⟨_, _, -, -, hrs'⟩ := exists_parse_of_perm hvs hvs' hperm.symm hrs
    exact ⟨_, hrs'⟩
  · rintro ⟨rs', hrs'⟩
    obtain ⟨_, _, -, -, hrs⟩ := exists_parse_of_perm hvs' hvs hperm hrs'
    exact ⟨_, hrs⟩
  · intro rs rs' hrs hrs' hcompares
    obtain ⟨rules, rules', hrules, rfl, hread⟩ :=
      exists_parse_of_perm hvs hvs' hperm.symm hrs
    obtain rfl : byPriority rules' = rs' := Except.ok.inj (hread.symm.trans hrs')
    have hsame : (byPriority rules).Perm (byPriority rules') :=
      (perm_byPriority rules).trans (hrules.symm.trans (perm_byPriority rules').symm)
    have hchoose : byPriority rules = byPriority rules' → ∀ gates draws loaded loaded' now x,
        (Engine.ofDocument doc gates draws loaded).choose now x
          = (Engine.ofDocument doc' gates draws loaded').choose now x := by
      intro heq gates draws loaded loaded' now x
      unfold Engine.choose
      rw [Engine.ofDocument_rules hrs, Engine.ofDocument_rules hrs', heq]
      rfl
    rcases ne_nan_or_length_le hcompares with hnan | hshort
    · -- all priorities are numbers, and the rules stand in descending order
      have hall : ∀ r ∈ rules, r.priority ≠ .double .nan := fun r hr =>
        hnan r ((perm_byPriority rules).mem_iff.mpr hr)
      have h : Descending (byPriority rules) := descending_byPriority hall
      have h' : Descending (byPriority rules') := descending_byPriority fun r hr =>
        hall r (hrules.mem_iff.mp hr)
      refine ⟨map_place?_eq_of_perm hsame hnan h h', fun p => hsame.filter _, ?_, ?_⟩
      · intro gates now x
        exact winner?_place?_eq_of_perm gates now x hsame hnan h h'
      · intro hne
        have heq := eq_of_perm hsame hnan h h' hne
        exact ⟨heq, hchoose heq⟩
    · -- one rule at most, whose priority need not be a number
      have heq := eq_of_perm_of_length_le hsame hshort
      rw [← heq]
      exact ⟨rfl, fun p => .refl _, fun gates now x => rfl, fun _ => ⟨rfl, hchoose heq⟩⟩

/-- Entries whose priorities are a whole number, a text of one and an infinite one. -/
def spacedRanking : List Value :=
  [ranking "ten" (.int 10), ranking "half" (.text "10.5"), ranking "top" (.text "inf")]

/-- Priorities that are all different give one order, whichever end the entries are read from. -/
theorem parse_perm_reversed :
    ∃ rs, parse (listing spacedRanking) = .ok rs ∧ parse (listing spacedRanking.reverse) = .ok rs ∧
      rs.map Rule.id = (["top", "half", "ten"] : List Text) := by
  have hread : (parse (listing spacedRanking)).toOption.any (fun rs =>
      decide (rs.map Rule.id = (["top", "half", "ten"] : List Text)) &&
        decide (rs.Pairwise Rule.Compares) &&
        decide (rs.Pairwise fun a b => a.priority.eq b.priority = false)) = true := by
    decide +kernel
  obtain ⟨rs, hrs, htest⟩ := exists_of_toOption_any hread
  simp only [Bool.and_eq_true, decide_eq_true_eq] at htest
  obtain ⟨⟨hids, hcompares⟩, hne⟩ := htest
  obtain ⟨hboth, hsame⟩ := parse_perm (entries?_listing spacedRanking)
    (entries?_listing spacedRanking.reverse) (List.reverse_perm spacedRanking).symm
  obtain ⟨rs', hrs'⟩ := hboth.mp ⟨rs, hrs⟩
  obtain ⟨-, -, -, hequal⟩ := hsame rs rs' hrs hrs' hcompares
  obtain rfl : rs = rs' := (hequal hne).1
  exact ⟨rs, hrs, hrs', hids⟩

end RuleSet
end OfferRules

import Mathlib.Data.List.Perm.Basic
import OfferRules.Proofs.Documents
import OfferRules.Proofs.StableOrder

/-!
# The order of the rules of a document

Where the priorities of a document all compare, its rules stand by descending priority, and rules
of one priority in the order in which they are written.  A priority that is not a number compares
with none.  It does no harm where no two of the others differ, but as soon as two do, the same
entries can be written in an order in which the lower one comes first.

## Main definitions

* `Ranked` — rules stand by descending priority, those of one priority as they are written.
* `RuleSet.listing` — the document that lists some entries.

## Main results

* `ranked_byPriority`, `ranked_of_forall_lt` — when the order of rules is the right one.
* `byPriority_between` — when it is not.
* `RuleSet.parse_ranked` — **the order of the rules of a document.**
-/

namespace OfferRules

/-- Rules stand by descending priority, and those of one priority in the order in which they are
written. -/
def Ranked (written rs : List Rule) : Prop :=
  rs.Pairwise fun a b => a.priority.lt b.priority = false ∧
    (a.priority.eq b.priority = true → [a, b].Sublist written)

/-! ### Priorities that compare -/

theorem Place.level_injective : Function.Injective Place.level := by
  intro p q h
  cases p <;> cases q <;> simp_all [Place.level, -WithBot.coe_top]

/-- Numbers are equal exactly when their ranks are. -/
theorem Number.eq_iff_rank {m n : Number} (hm : m ≠ .double .nan) (hn : n ≠ .double .nan) :
    m.eq n = true ↔ m.rank = n.rank := by
  obtain ⟨p, hp⟩ := Option.isSome_iff_exists.mp (Number.place?_isSome hm)
  obtain ⟨q, hq⟩ := Option.isSome_iff_exists.mp (Number.place?_isSome hn)
  simp only [Number.eq, Number.rank, hp, hq, Option.map_some, Option.getD_some, beq_iff_eq,
    Place.level_injective.eq_iff]

/-- Rules whose priorities all compare are put into the right order. -/
theorem ranked_byPriority {rules : List Rule} (h : ∀ r ∈ rules, r.priority ≠ .double .nan) :
    Ranked rules (byPriority rules) := by
  have hordered := (stableOrder_byPriority h).ordered
  rw [List.pairwise_reverse] at hordered
  refine hordered.imp_of_mem ?_
  intro a b ha hb hab
  have ha := h a ((perm_byPriority rules).mem_iff.mp ha)
  have hb := h b ((perm_byPriority rules).mem_iff.mp hb)
  constructor
  · rw [Bool.eq_false_iff, Ne, Number.lt_iff_rank ha hb]
    exact not_lt.mpr hab.1
  · intro heq
    have hsub := hab.2 ((Number.eq_iff_rank ha hb).mp heq).symm
    simpa using hsub.reverse

/-! ### Priorities of which none is less than another -/

variable {α : Type} {less : α → α → Bool}

theorem splitRun_of_forall {last : α} {items : List α}
    (h : ∀ a ∈ last :: items, ∀ b ∈ last :: items, less a b = false) :
    splitRun less false last items = (items, []) := by
  induction items generalizing last with
  | nil => rfl
  | cons a rest ih =>
    have ha : less a last = false := h a (by simp) last (by simp)
    have hrest : splitRun less false a rest = (rest, []) := ih fun b hb c hc =>
      h b (List.mem_cons_of_mem last hb) c (List.mem_cons_of_mem last hc)
    rw [splitRun, if_pos ha, hrest]

/-- Items of which none is less than another stay as they are. -/
theorem sortedBy_of_forall {items : List α} (h : ∀ a ∈ items, ∀ b ∈ items, less a b = false) :
    sortedBy less items = items := by
  match items with
  | [] => rfl
  | [a] => rfl
  | a :: b :: rest =>
    have hba : less b a = false := h b (by simp) a (by simp)
    have hrun : splitRun less false b rest = (rest, []) := splitRun_of_forall fun c hc d hd =>
      h c (List.mem_cons_of_mem a hc) d (List.mem_cons_of_mem a hd)
    simp [sortedBy, firstRun, hba, hrun]

/-- Rules of which none has less priority than another are put into the right order. -/
theorem ranked_of_forall_lt {rules : List Rule}
    (h : ∀ a ∈ rules, ∀ b ∈ rules, a.priority.lt b.priority = false) :
    Ranked rules (byPriority rules) := by
  have hsame : byPriority rules = rules := by
    rw [byPriority, sortedBy_of_forall, List.reverse_reverse]
    intro a ha b hb
    exact h a (List.mem_reverse.mp ha) b (List.mem_reverse.mp hb)
  rw [hsame]
  exact List.pairwise_iff_forall_sublist.mpr fun hab =>
    ⟨h _ (hab.subset (by simp)) _ (hab.subset (by simp)), fun _ => hab⟩

/-! ### Priorities that do not compare -/

theorem sublist_insertSorted (items : List α) (a : α) :
    items.Sublist (insertSorted less items a) := by
  unfold insertSorted
  dsimp only
  generalize insertionPoint less items.toArray a 0 items.length = i
  have hsub : (items.take i ++ items.drop i).Sublist (items.take i ++ a :: items.drop i) :=
    (List.Sublist.refl _).append (List.sublist_cons_self a _)
  rwa [List.take_append_drop] at hsub

/-- Insertion leaves the items that are there in their order. -/
theorem sublist_foldl_insertSorted (others items : List α) :
    items.Sublist (others.foldl (insertSorted less) items) := by
  induction others generalizing items with
  | nil => exact .refl items
  | cons a rest ih => exact (sublist_insertSorted items a).trans (ih _)

/-- Items that compare with the one between them as if they ascended are taken to do so. -/
theorem sublist_sortedBy_between {a b c : α} {rest : List α} (hba : less b a = false)
    (hcb : less c b = false) : [a, c].Sublist (sortedBy less (a :: b :: c :: rest)) := by
  have hrun : [a, c].Sublist (firstRun less (a :: b :: c :: rest)).1 := by
    simp only [firstRun, splitRun, hba, hcb]
    exact ((List.nil_sublist _).cons_cons c).cons b |>.cons_cons a
  exact hrun.trans (sublist_foldl_insertSorted _ _)

theorem Number.not_lt_nan (n : Number) : n.lt (.double .nan) = false := by
  unfold Number.lt
  cases n.place? <;> rfl

theorem Number.nan_not_lt (n : Number) : (Number.double .nan).lt n = false := rfl

/-- Two rules that are written last, with one between them whose priority is not a number, stay as
they are written. -/
theorem byPriority_between {a b n : Rule} (hn : n.priority = .double .nan) (front : List Rule) :
    [a, b].Sublist (byPriority (front ++ [a, n, b])) := by
  have hsub : [b, a].Sublist (sortedBy (fun r s => r.priority.lt s.priority)
      (b :: n :: a :: front.reverse)) := by
    refine sublist_sortedBy_between ?_ ?_
    · rw [hn]
      exact Number.nan_not_lt _
    · rw [hn]
      exact Number.not_lt_nan _
  have hrev : (front ++ [a, n, b]).reverse = b :: n :: a :: front.reverse := by simp
  rw [byPriority, hrev]
  exact hsub.reverse

/-! ### Documents -/

theorem exists_perm_cons {a : α} {as : List α} (h : a ∈ as) : ∃ rest, as.Perm (a :: rest) := by
  obtain ⟨before, behind, rfl⟩ := List.append_of_mem h
  exact ⟨before ++ behind, List.perm_middle⟩

/-- Three items that are all different can be put last. -/
theorem exists_perm_append {a b c : α} {as : List α} (ha : a ∈ as) (hb : b ∈ as) (hc : c ∈ as)
    (hba : b ≠ a) (hca : c ≠ a) (hcb : c ≠ b) : ∃ front, (front ++ [a, b, c]).Perm as := by
  obtain ⟨rest, hrest⟩ := exists_perm_cons ha
  have hb := (List.mem_cons.mp (hrest.mem_iff.mp hb)).resolve_left hba
  obtain ⟨rest', hrest'⟩ := exists_perm_cons hb
  have hc := (List.mem_cons.mp (hrest.mem_iff.mp hc)).resolve_left hca
  have hc := (List.mem_cons.mp (hrest'.mem_iff.mp hc)).resolve_left hcb
  obtain ⟨front, hfront⟩ := exists_perm_cons hc
  refine ⟨front, List.perm_append_comm.trans ?_⟩
  exact ((hrest.trans (hrest'.cons a)).trans ((hfront.cons b).cons a)).symm

namespace RuleSet

/-- The priorities of rules are all numbers, or none of them is less than another. -/
def Comparable (rs : List Rule) : Prop :=
  (∀ r ∈ rs, r.priority ≠ .double .nan) ∨ ∀ a ∈ rs, ∀ b ∈ rs, a.priority.lt b.priority = false

/-- The rules of some entries in another order are the rules of the entries in that order. -/
theorem exists_rules_of_perm {vs vs' : List Value} {rules : List Rule} (hperm : vs'.Perm vs)
    (h : vs.map RuleDefinition.read = rules.map .ok) :
    ∃ rules' : List Rule, vs'.map RuleDefinition.read = rules'.map .ok ∧
      rules'.Perm rules := by
  have hread := Checked.exists_map_eq_ok.mp ⟨rules, h⟩
  obtain ⟨rules', hrules'⟩ : ∃ rules' : List Rule, vs'.map RuleDefinition.read = rules'.map .ok :=
    Checked.exists_map_eq_ok.mpr fun v hv => hread v (hperm.mem_iff.mp hv)
  refine ⟨rules', hrules', ?_⟩
  rw [← List.map_perm_map_iff (f := Except.ok) fun _ _ => Except.ok.inj, ← hrules', ← h]
  exact hperm.map _

/-- Where a priority is not a number and two of the others differ, the entries can be written in an
order in which the lower one of them comes first. -/
theorem exists_misranked {vs : List Value} {rules : List Rule}
    (h : vs.map RuleDefinition.read = rules.map .ok) (hids : (rules.map Rule.id).Nodup)
    (hc : ¬ Comparable rules) :
    ∃ vs' rs', vs'.Perm vs ∧ parse (listing vs') = .ok rs' ∧
      ¬ rs'.Pairwise fun a b => a.priority.lt b.priority = false := by
  obtain ⟨⟨n, hn, hnan⟩, a, ha, b, hb, hlt⟩ : (∃ n ∈ rules, n.priority = .double .nan) ∧
      ∃ a ∈ rules, ∃ b ∈ rules, a.priority.lt b.priority = true := by
    simpa [Comparable] using hc
  have hentry : ∀ r ∈ rules, ∃ v ∈ vs, RuleDefinition.read v = .ok r := by
    intro r hr
    have hmem : Except.ok r ∈ vs.map RuleDefinition.read := h ▸ List.mem_map_of_mem hr
    exact List.mem_map.mp hmem
  obtain ⟨va, hva, hra⟩ := hentry a ha
  obtain ⟨vn, hvn, hrn⟩ := hentry n hn
  obtain ⟨vb, hvb, hrb⟩ := hentry b hb
  -- the three entries differ, since one priority is not a number and the others differ
  have hne : ∀ {v w : Value} {r s : Rule}, RuleDefinition.read v = .ok r →
      RuleDefinition.read w = .ok s → r.priority ≠ s.priority → v ≠ w := by
    rintro v w r s hv hw hpriority rfl
    exact hpriority (congrArg Rule.priority (Except.ok.inj (hv.symm.trans hw)))
  have hna : n.priority ≠ a.priority := by
    intro heq
    rw [← heq, hnan] at hlt
    exact nomatch hlt
  have hbn : b.priority ≠ n.priority := by
    intro heq
    rw [heq, hnan, Number.not_lt_nan] at hlt
    exact nomatch hlt
  have hba : b.priority ≠ a.priority := by
    intro heq
    rw [heq, Number.lt_iff_rank (hnan ▸ hna.symm) (hnan ▸ hna.symm)] at hlt
    exact lt_irrefl _ hlt
  obtain ⟨front, hfront⟩ := exists_perm_append hva hvn hvb (hne hrn hra hna) (hne hrb hra hba)
    (hne hrb hrn hbn)
  obtain ⟨rules', hrules', hperm⟩ := exists_rules_of_perm hfront h
  refine ⟨_, _, hfront, (parse_eq_ok (entries?_listing _)).mpr
    ⟨rules', hrules', (hperm.map Rule.id).nodup_iff.mpr hids, rfl⟩, ?_⟩
  intro hranked
  -- the rules of the last three entries stay as they are written
  obtain ⟨before, last, rfl, -, hlast⟩ := List.map_eq_append_iff.mp
    (hrules'.symm.trans List.map_append)
  obtain rfl : last = [a, n, b] := by
    rw [← List.map_inj_right (f := Except.ok) fun _ _ => Except.ok.inj, hlast]
    simp [hra, hrn, hrb]
  have hsub := byPriority_between (a := a) (b := b) hnan before
  rw [List.pairwise_iff_forall_sublist.mp hranked hsub] at hlt
  exact nomatch hlt

/-- **The order of the rules of a document.**  The rules are those of its entries.  Where the
priorities are all numbers, or none is less than another, they stand by descending priority, and
rules of one priority as they are written; in all other cases the same entries can be written in an
order in which a rule of less priority comes first. -/
theorem parse_ranked {doc : Value} {rs : List Rule} (h : parse doc = .ok rs) :
    ∃ vs rules, entries? doc = some vs ∧ vs.map RuleDefinition.read = rules.map .ok ∧
      rs.Perm rules ∧ (Comparable rs → Ranked rules rs) ∧
      (¬ Comparable rs → ∃ vs' rs', vs'.Perm vs ∧ parse (listing vs') = .ok rs' ∧
        ¬ rs'.Pairwise fun a b => a.priority.lt b.priority = false) := by
  obtain ⟨es, vs, rfl, hvs⟩ := entries?_of_parse h
  obtain ⟨rules, hrules, hids, rfl⟩ := (parse_eq_ok hvs).mp h
  have hmem : ∀ r, r ∈ byPriority rules ↔ r ∈ rules := fun r => (perm_byPriority rules).mem_iff
  have hcomparable : Comparable (byPriority rules) ↔ Comparable rules := by
    simp only [Comparable, hmem]
  refine ⟨vs, rules, hvs, hrules, perm_byPriority rules, ?_, ?_⟩
  · rw [hcomparable]
    rintro (hnumbers | hequal)
    · exact ranked_byPriority hnumbers
    · exact ranked_of_forall_lt hequal
  · rw [hcomparable]
    exact exists_misranked hrules hids

/-- An entry with a name and a priority. -/
def ranking (id : String) (priority : Value) : Value :=
  .record [("id", .text id), ("priority", priority)]

/-- Entries whose priorities are numbers, texts of numbers, and missing. -/
def mixedRanking : List Value :=
  [ranking "none" .null, ranking "half" (.text "10.5"), ranking "ten" (.int 10),
    ranking "also" (.text " 1_0 "), ranking "top" (.text "inf")]

/-- Numbers, texts of numbers and missing priorities stand in one order. -/
theorem parse_ranked_mixed :
    ∃ rs rules, parse (listing mixedRanking) = .ok rs ∧ Comparable rs ∧
      mixedRanking.map RuleDefinition.read = rules.map .ok ∧ rs.Perm rules ∧ Ranked rules rs := by
  have hread : (parse (listing mixedRanking)).toOption.any
      (fun rs => rs.all fun r => decide (r.priority ≠ .double .nan)) = true := by
    decide +kernel
  obtain ⟨rs, hrs, hnumbers⟩ := exists_of_toOption_any hread
  have hcomparable : Comparable rs := Or.inl (by simpa using hnumbers)
  obtain ⟨vs, rules, hvs, hrules, hperm, hranked, -⟩ := parse_ranked hrs
  obtain rfl : mixedRanking = vs := Option.some.inj hvs
  exact ⟨rs, rules, hrs, hcomparable, hrules, hperm, hranked hcomparable⟩

/-- A priority that is not a number keeps the lower one of two others in front. -/
theorem parse_misranked :
    ∃ rs, parse (listing [ranking "low" (.int 1), ranking "none" (.text "nan"),
        ranking "high" (.int 2)]) = .ok rs ∧
      rs.map Rule.id = (["low", "none", "high"] : List Text) ∧
      ¬ rs.Pairwise fun a b => a.priority.lt b.priority = false := by
  have hread : (parse (listing [ranking "low" (.int 1), ranking "none" (.text "nan"),
      ranking "high" (.int 2)])).toOption.any (fun rs =>
        decide (rs.map Rule.id = (["low", "none", "high"] : List Text)) &&
          rs.map Rule.priority == [1, .double .nan, 2]) = true := by
    decide +kernel
  obtain ⟨rs, hrs, htest⟩ := exists_of_toOption_any hread
  obtain ⟨hids, hpriorities⟩ : rs.map Rule.id = (["low", "none", "high"] : List Text) ∧
      rs.map Rule.priority = [1, .double .nan, 2] := by simpa using htest
  refine ⟨rs, hrs, hids, fun hranked => ?_⟩
  have hpairs : [(1 : Number), .double .nan, 2].Pairwise fun m n => m.lt n = false := by
    rw [← hpriorities, List.pairwise_map]
    exact hranked
  exact absurd hpairs (by decide +kernel)

end RuleSet
end OfferRules

import OfferRules.Proofs.LogicInForce
import OfferRules.Proofs.RunningSums

/-!
# Drawing lots

Lots are drawn among rules whose weights are missing or doubles, as documents write them.  Whatever
is drawn falls into the share of one of them, provided that the shares have a finite sum: only
where no share is positive is the sum not asked for, and then it is zero.  A weight that is not a
number, an infinite one, and finite ones whose running sum overflows leave the draw without an
answer.

## Main definitions

* `Rule.IsWeighed` — the weight of a rule is missing or a double.
* `Rule.lot` — the share of such a rule.

## Main results

* `RuleSet.isWeighed_of_parse` — the rules of a document are such rules.
* `totalShare_lots`, `sumsFrom_lots` — the sum of the shares and their running sums.
* `Strategy.drawLots_of_isFinite`, `Strategy.drawLots_of_not_isFinite` — one draw.
* `Strategy.select_weighted_iff` — **when lots can be drawn.**
-/

namespace OfferRules

attribute [local irreducible] Magnitude.bound Magnitude.perOne

/-! ### Weights -/

namespace Rule

/-- The weight of a rule is missing or a double. -/
def IsWeighed (r : Rule) : Prop := r.weight = none ∨ ∃ d, r.weight = some (.double d)

/-- The share of a rule whose weight is missing or a double: a missing weight counts as one, and a
negative one as zero. -/
def lot (r : Rule) : Double :=
  match r.weight with
  | some (.double d) => if d.lt .zero then .zero else d
  | _ => .one

theorem share_of_isWeighed {r : Rule} (h : r.IsWeighed) : r.share = .double r.lot := by
  unfold share lot
  rcases h with h | ⟨d, h⟩
  · rw [h]
    have hone : (Number.double .one).lt (.double .zero) = false :=
      Double.ofUnits_not_lt_zero _ 1
    simp only [Option.getD_none, hone]
    rfl
  · rw [h]
    show (if d.lt .zero then _ else _) = Number.double (if d.lt .zero then _ else _)
    cases d.lt .zero <;> rfl

theorem map_share {rs : List Rule} (h : ∀ r ∈ rs, r.IsWeighed) :
    rs.map share = (rs.map lot).map .double := by
  rw [List.map_map]
  exact List.map_congr_left fun r hr => share_of_isWeighed (h r hr)

theorem lot_not_lt_zero (r : Rule) : r.lot.lt .zero = false := by
  unfold lot
  split
  · split
    · exact Double.lt_zero_eq_false.mpr fun _ => rfl
    · next h => simpa using h
  · exact Double.ofUnits_not_lt_zero _ 1

theorem map_lot_not_lt_zero (rules : List Rule) : ∀ d ∈ rules.map lot, d.lt .zero = false :=
  List.forall_mem_map.mpr fun r _ => r.lot_not_lt_zero

/-- All shares are finite if their sum is. -/
theorem lot_isFinite_of_sum {first : Rule} {others : List Rule}
    (h : (Double.sum first.lot (others.map lot)).isFinite = true) :
    ∀ r ∈ first :: others, r.lot.isFinite = true := by
  obtain ⟨hfirst, hothers⟩ := Double.isFinite_of_sum h
  exact List.forall_mem_cons.mpr ⟨hfirst, List.forall_mem_map.mp hothers⟩

/-- A weight that is not a number, or above all numbers, is the share as it is. -/
theorem lot_isFinite {r : Rule} (h : r.lot.isFinite = true) :
    r.weight ≠ some (.double .nan) ∧ r.weight ≠ some (.double (.infinite false)) := by
  constructor
  · intro hweight
    rw [lot, hweight] at h
    exact nomatch h
  · intro hweight
    rw [lot, hweight] at h
    exact nomatch h

end Rule

theorem RuleDefinition.isWeighed_of_read {v : Value} {r : Rule} (h : read v = .ok r) :
    r.IsWeighed := by
  cases v with
  | map es =>
    obtain ⟨_, _, _, _, _, _, weight, -, -, -, -, -, -, -, rfl⟩ := fields_eq_ok.mp h
    cases weight with
    | none => exact Or.inl rfl
    | some d => exact Or.inr ⟨d, rfl⟩
  | atom a => exact nomatch h
  | list items => exact nomatch h
  | set members => exact nomatch h
  | pair a b => exact nomatch h

/-- The rules of a document have no weight or a double for it. -/
theorem RuleSet.isWeighed_of_parse {doc : Value} {rules : List Rule} (h : parse doc = .ok rules) :
    ∀ r ∈ rules, r.IsWeighed := by
  obtain ⟨es, vs, rfl, hvs⟩ := entries?_of_parse h
  obtain ⟨written, hwritten, -, rfl⟩ := (parse_eq_ok hvs).mp h
  intro r hr
  have hmem : (.ok r : Checked Rule) ∈ vs.map RuleDefinition.read :=
    hwritten ▸ List.mem_map_of_mem ((perm_byPriority written).mem_iff.mp hr)
  obtain ⟨v, -, hv⟩ := List.mem_map.mp hmem
  exact RuleDefinition.isWeighed_of_read hv

/-! ### Sums of shares -/

theorem foldlM_addShares (first : Double) (rest : List Double) :
    (rest.map Number.double).foldlM addShares (.double first)
      = .ok (.double (Double.sum first rest)) := by
  induction rest generalizing first with
  | nil => rfl
  | cons d rest ih => exact ih (first + d)

/-- The sum of shares that are doubles starts from a zero, which makes no difference in place. -/
theorem totalShare_lots (d : Double) (rest : List Double) :
    ∃ total, totalShare ((d :: rest).map .double) = .ok (.double total) ∧
      total.place? = (Double.sum d rest).place? := by
  refine ⟨Double.sum (.zero + d) rest, ?_,
    Double.place?_sum_congr (Double.place?_zero_add rfl d) rest⟩
  have hzero := Number.addShares_double Number.toDouble?_zero d
  rw [totalShare, List.map_cons, List.foldlM_cons, hzero]
  exact foldlM_addShares _ rest

/-- The running sums of shares that are doubles are those of the doubles. -/
theorem sumsFrom_lots (first : Double) (rest : List Double) :
    sumsFrom (.double first) (rest.map .double)
      = .ok ((rest.scanl (· + ·) first).map .double) := by
  induction rest generalizing first with
  | nil => rfl
  | cons d rest ih =>
    have hadd : addShares (.double first) (.double d) = .ok (.double (first + d)) := rfl
    rw [List.map_cons, sumsFrom, hadd]
    show (sumsFrom (.double (first + d)) (rest.map .double) >>= _) = _
    rw [ih, List.scanl_cons, List.map_cons]
    rfl

/-- A share is always found: its place is below the number of shares. -/
theorem shareIndex_lt {sums : List Number} (h : sums ≠ []) (x : Double) :
    shareIndex sums x < sums.length := by
  have hpos := List.length_pos_iff.mpr h
  exact Nat.lt_of_le_of_lt (shareIndex_spec sums x).1 (Nat.sub_one_lt_of_lt hpos)

/-! ### Draws -/

namespace Strategy

variable {eligible : List Rule} {d : Double} {rest : List Double}

/-- A draw is taken where the last running sum, as a double, is finite. -/
theorem drawLots_of_last {sums : List Number} {last : Number} {total : Double}
    (hsums : runningSums (eligible.map Rule.share) = .ok sums) (hlast : sums.getLast? = some last)
    (htotal : addShares last (.double .zero) = .ok (.double total)) (draws : Draws) :
    drawLots eligible draws =
      if total.isFinite then
        .ok (eligible[shareIndex sums (draws.next * total)]?, draws.rest)
      else .error .weightTotal := by
  unfold drawLots
  simp only [hsums, bind, Except.bind, hlast, htotal]
  rfl

theorem drawLots_eq (hshares : eligible.map Rule.share = (d :: rest).map .double) (draws : Draws) :
    drawLots eligible draws =
      if (Double.sum d rest + .zero).isFinite then
        .ok (eligible[shareIndex ((rest.scanl (· + ·) d).map .double)
          (draws.next * (Double.sum d rest + .zero))]?, draws.rest)
      else .error .weightTotal := by
  have hrunning : runningSums (eligible.map Rule.share)
      = .ok ((rest.scanl (· + ·) d).map .double) := by
    rw [hshares]
    exact sumsFrom_lots d rest
  have hlast : ((rest.scanl (· + ·) d).map Number.double).getLast?
      = some (.double (Double.sum d rest)) := by
    rw [List.getLast?_map, List.getLast?_scanl]
    rfl
  exact drawLots_of_last hrunning hlast (Number.addShares_double rfl .zero) draws

theorem length_eligible (hshares : eligible.map Rule.share = (d :: rest).map .double) :
    eligible.length = rest.length + 1 := by
  have h := congrArg List.length hshares
  rwa [List.length_map, List.length_map, List.length_cons] at h

/-- Where the shares have a finite sum, a draw picks one of the rules. -/
theorem drawLots_of_isFinite (hshares : eligible.map Rule.share = (d :: rest).map .double)
    (hfinite : (Double.sum d rest).isFinite = true) (draws : Draws) :
    ∃ r ∈ eligible, drawLots eligible draws = .ok (some r, draws.rest) := by
  have hdraw := drawLots_eq hshares draws
  have htotal := Double.isFinite_of_place? (Double.place?_add_zero (Double.sum d rest)
    (b := .zero) rfl)
  rw [if_pos (htotal.trans hfinite)] at hdraw
  have hne : (rest.scanl (· + ·) d).map Number.double ≠ [] := by simp
  have hlt := shareIndex_lt hne (draws.next * (Double.sum d rest + .zero))
  rw [List.length_map, List.length_scanl, ← length_eligible hshares] at hlt
  rw [List.getElem?_eq_getElem hlt] at hdraw
  exact ⟨_, List.getElem_mem hlt, hdraw⟩

/-- Where the shares have no finite sum, a draw fails. -/
theorem drawLots_of_not_isFinite (hshares : eligible.map Rule.share = (d :: rest).map .double)
    (hfinite : (Double.sum d rest).isFinite = false) (draws : Draws) :
    drawLots eligible draws = .error .weightTotal := by
  have hdraw := drawLots_eq hshares draws
  have htotal := Double.isFinite_of_place? (Double.place?_add_zero (Double.sum d rest)
    (b := .zero) rfl)
  rw [hdraw, htotal, hfinite, if_neg Bool.false_ne_true]

theorem select_weighted {total : Number} (hne : eligible ≠ [])
    (htotal : totalShare (eligible.map Rule.share) = .ok total) (draws : Draws) (player : Value) :
    weighted.select eligible draws player =
      if total.le 0 then .ok (eligible.head?, draws) else drawLots eligible draws := by
  cases eligible with
  | nil => exact absurd rfl hne
  | cons first others =>
    simp only [select, htotal, bind, Except.bind]
    rfl

/-- Where the shares have a finite sum, one of the rules is selected. -/
theorem select_weighted_of_isFinite {total : Double} (hne : eligible ≠ [])
    (hshares : eligible.map Rule.share = (d :: rest).map .double)
    (htotal : totalShare (eligible.map Rule.share) = .ok (.double total))
    (hplace : total.place? = (Double.sum d rest).place?) (hfinite : total.isFinite = true)
    (draws : Draws) (player : Value) :
    ∃ r ∈ eligible, ∃ left, weighted.select eligible draws player = .ok (some r, left) := by
  rw [select_weighted hne htotal]
  by_cases hle : (Number.double total).le 0 = true
  · -- nothing is drawn, and the first rule is taken
    rw [if_pos hle, List.head?_eq_some_head hne]
    exact ⟨_, List.head_mem hne, draws, rfl⟩
  · rw [Double.isFinite_of_place? hplace] at hfinite
    obtain ⟨r, hr, hdraw⟩ := drawLots_of_isFinite hshares hfinite draws
    rw [if_neg hle, hdraw]
    exact ⟨r, hr, draws.rest, rfl⟩

/-- Where the shares, of which none is negative, have no finite sum, the selection fails. -/
theorem select_weighted_of_not_isFinite {total : Double} (hne : eligible ≠ [])
    (hshares : eligible.map Rule.share = (d :: rest).map .double)
    (hd : d.lt .zero = false) (hrest : ∀ e ∈ rest, e.lt .zero = false)
    (htotal : totalShare (eligible.map Rule.share) = .ok (.double total))
    (hplace : total.place? = (Double.sum d rest).place?) (hfinite : total.isFinite = false)
    (draws : Draws) (player : Value) :
    weighted.select eligible draws player = .error .weightTotal := by
  have hsign : total.lt .zero = false := by
    rw [Double.lt_congr hplace rfl]
    exact Double.sum_not_lt_zero hd hrest
  have hle : ¬ (Number.double total).le 0 = true := by
    intro hle
    have htrue : total.isFinite = true :=
      Number.isFinite_of_le (n := .double total) (m := 0) hsign rfl hle
    rw [hfinite] at htrue
    cases htrue
  rw [Double.isFinite_of_place? hplace] at hfinite
  rw [select_weighted hne htotal, if_neg hle, drawLots_of_not_isFinite hshares hfinite]

/-- **When lots can be drawn.**  Among rules whose weights are missing or doubles, one is picked
exactly when the shares have a finite sum, and otherwise the selection fails.  A weight that is not
a number or is infinite leaves no finite sum, and so do finite weights whose running sum
overflows. -/
theorem select_weighted_iff (eligible : List Rule) (hne : eligible ≠ [])
    (hw : ∀ r ∈ eligible, r.IsWeighed) (draws : Draws) (player : Value) :
    ∃ total, totalShare (eligible.map Rule.share) = .ok (.double total) ∧
      ((∃ r ∈ eligible, ∃ left, weighted.select eligible draws player = .ok (some r, left)) ↔
        total.isFinite = true) ∧
      (total.isFinite = false →
        weighted.select eligible draws player = .error .weightTotal) ∧
      (total.isFinite = true → ∀ r ∈ eligible,
        r.weight ≠ some (.double .nan) ∧ r.weight ≠ some (.double (.infinite false))) := by
  obtain ⟨first, others, rfl⟩ := List.exists_cons_of_ne_nil hne
  have hshares : (first :: others).map Rule.share
      = (first.lot :: others.map Rule.lot).map .double := Rule.map_share hw
  obtain ⟨total, htotal, hplace⟩ := totalShare_lots first.lot (others.map Rule.lot)
  rw [← hshares] at htotal
  have hfails := fun hfinite => select_weighted_of_not_isFinite hne hshares first.lot_not_lt_zero
    (Rule.map_lot_not_lt_zero others) htotal hplace hfinite draws player
  refine ⟨total, htotal, ⟨?_, ?_⟩, hfails, ?_⟩
  · rintro ⟨r, -, left, hpick⟩
    by_contra hfinite
    rw [hfails (Bool.eq_false_iff.mpr hfinite)] at hpick
    exact nomatch hpick
  · intro hfinite
    exact select_weighted_of_isFinite hne hshares htotal hplace hfinite draws player
  · intro hfinite r hr
    rw [Double.isFinite_of_place? hplace] at hfinite
    exact Rule.lot_isFinite (Rule.lot_isFinite_of_sum hfinite r hr)

end Strategy

/-- Rules without a weight, of a negative one and of weight two. -/
def Sample.weighed : List Rule :=
  [{ id := "missing" }, { id := "negative", weight := some (.double (.negated .one)) },
    { id := "double", weight := some (.double (.ofNat 2)) }]

/-- A rule of an infinite weight. -/
def Sample.unbounded : List Rule := [{ id := "a", weight := some (.double (.infinite false)) }]

/-- Draws that are all zero. -/
def Sample.lowest : Draws := { draw := fun _ => .zero }

namespace Strategy

/-- Among rules without a weight, of a negative one and of weight two, lots are drawn. -/
theorem select_weighted_three :
    Sample.weighed ≠ [] ∧ (∀ r ∈ Sample.weighed, r.IsWeighed) ∧
      ∃ r ∈ Sample.weighed, ∃ left,
        weighted.select Sample.weighed Sample.lowest = .ok (some r, left) := by
  have hw : ∀ r ∈ Sample.weighed, r.IsWeighed := by simp [Sample.weighed, Rule.IsWeighed]
  obtain ⟨total, htotal, hpick, -⟩ :=
    select_weighted_iff Sample.weighed nofun hw Sample.lowest .null
  have hfinite : (totalShare (Sample.weighed.map Rule.share)).toOption.any
      (fun total => (total.toDouble?).any Double.isFinite) = true := by decide +kernel
  rw [htotal] at hfinite
  exact ⟨nofun, hw, hpick.mpr hfinite⟩

/-- A rule of an infinite weight cannot be drawn, not even alone and with a draw of zero. -/
theorem select_weighted_infinite :
    Sample.unbounded ≠ [] ∧ (∀ r ∈ Sample.unbounded, r.IsWeighed) ∧
      ¬ ∃ r ∈ Sample.unbounded, ∃ left,
        weighted.select Sample.unbounded Sample.lowest = .ok (some r, left) := by
  have hfails : (weighted.select Sample.unbounded Sample.lowest).isOk = false := by
    decide +kernel
  refine ⟨nofun, by simp [Sample.unbounded, Rule.IsWeighed], ?_⟩
  rintro ⟨r, -, left, hpick⟩
  rw [hpick] at hfails
  exact nomatch hfails

end Strategy
end OfferRules

import OfferRules.Proofs.Lots

/-!
# Rules without a positive weight

A rule without a positive weight has a share of zero, and nothing falls into it while a later share
follows.  The last share takes all that has reached the sums before it, so a last rule without a
positive weight is picked where the draw times the sum is rounded up to the sum.  This can happen
only if the sum is at most `2 ^ -1022`, and then it does happen for the greatest draw.

## Main definitions

* `Rule.isPositive` — the weight of a rule is positive; a missing one counts as one.

## Main results

* `Strategy.exists_of_drawLots` — what a draw picks.
* `Strategy.last_of_not_isPositive`, `Strategy.exists_draw_last` — when a last rule without a
  positive weight is picked.
* `Strategy.select_weighted_positive_iff` — **when only rules of positive weight are picked.**
-/

namespace OfferRules

attribute [local irreducible] Magnitude.bound Magnitude.perOne

/-- Whether the weight of a rule is positive; a missing one counts as one. -/
def Rule.isPositive (r : Rule) : Bool := (Number.double .zero).lt (r.weight.getD (.double .one))

namespace Rule

theorem share_not_lt_zero (r : Rule) : r.share.lt (.double .zero) = false := by
  unfold share
  dsimp only
  split
  · rfl
  · next h => exact Bool.eq_false_iff.mpr h

theorem map_share_not_lt_zero (rules : List Rule) :
    ∀ s ∈ rules.map share, s.lt (.double .zero) = false :=
  List.forall_mem_map.mpr fun r _ => r.share_not_lt_zero

/-- A weight is positive just if the share is. -/
theorem isPositive_iff {r : Rule} {j : Nat} (h : r.share.HasSize j) :
    r.isPositive = true ↔ 0 < j := by
  have hshare : r.isPositive = (Number.double .zero).lt r.share := by
    unfold isPositive share
    dsimp only
    split
    · next hneg =>
      rw [Number.lt_asymm hneg]
      rfl
    · rfl
  rw [hshare, Number.hasSize_zero.lt_iff h]

end Rule

namespace Strategy

section Sums

variable {first : Rule} {others : List Rule} {sums : List Number} {last : Number} {t : Nat}
  (hsums : sumsFrom first.share (others.map Rule.share) = .ok sums)
  (hlast : sums[(others.map Rule.share).length]? = some last)

include hsums hlast

theorem last_not_lt_zero : last.lt (.double .zero) = false :=
  Number.sumsFrom_not_lt_zero hsums first.share_not_lt_zero (Rule.map_share_not_lt_zero others)
    last (List.mem_of_getElem? hlast)

omit hlast in
theorem runningSums_shares : runningSums ((first :: others).map Rule.share) = .ok sums := hsums

theorem getLast?_sums : sums.getLast? = some last := by
  rw [List.getLast?_eq_getElem?, length_sumsFrom hsums, Nat.add_sub_cancel, hlast]

/-- The shares of the rules have sizes. -/
theorem exists_share (ht : last.HasSize t) {r : Rule} (hr : r ∈ first :: others) :
    ∃ j, r.share.HasSize j ∧ (0 < j → 0 < t) :=
  Number.hasSize_of_last hsums first.share_not_lt_zero (Rule.map_share_not_lt_zero others) hlast ht
    r.share (List.mem_map_of_mem (f := Rule.share) hr)

theorem last_pos (ht : last.HasSize t) (hpos : ∃ r ∈ first :: others, r.isPositive = true) :
    0 < t := by
  obtain ⟨r, hr, hpositive⟩ := hpos
  obtain ⟨j, hj, himp⟩ := exists_share hsums hlast ht hr
  exact himp ((Rule.isPositive_iff hj).mp hpositive)

/-- Where a weight is positive, lots are drawn. -/
theorem select_eq_drawLots {total : Number} (hplace : total.place? = last.place?)
    (htotal : totalShare ((first :: others).map Rule.share) = .ok total)
    (hpos : ∃ r ∈ first :: others, r.isPositive = true) (draws : Draws) (player : Value) :
    weighted.select (first :: others) draws player = drawLots (first :: others) draws := by
  rw [select_weighted (List.cons_ne_nil _ _) htotal, Number.le_congr hplace rfl]
  refine if_neg fun hle => ?_
  have hnot := last_not_lt_zero hsums hlast
  obtain ⟨t, ht⟩ := Number.exists_hasSize hnot (Number.isFinite_of_le hnot rfl hle)
  have hzero : (0 : Number).HasSize 0 := congrArg (some ∘ Place.units) (Int.zero_mul _)
  have ht0 := (ht.le_iff hzero).mp hle
  exact absurd (last_pos hsums hlast ht hpos) (Nat.not_lt_of_le ht0)

/-- What a draw picks: the rule whose share it falls into, multiplied by the last sum as a double,
which is finite then. -/
theorem exists_of_drawLots {draws : Draws} {r : Rule} {left : Draws}
    (h : drawLots (first :: others) draws = .ok (some r, left)) :
    ∃ x : Double, addShares last (.double .zero) = .ok (.double x) ∧ x.isFinite = true ∧
      (first :: others)[shareIndex sums (draws.next * x)]? = some r := by
  have hrunning := runningSums_shares hsums
  have hgetLast := getLast?_sums hsums hlast
  cases hadd : addShares last (.double .zero) with
  | error f =>
    unfold drawLots at h
    simp only [hrunning, bind, Except.bind, hgetLast, hadd] at h
    cases h
  | ok c =>
    rcases Number.cases_of_addShares hadd with ⟨k, l, -, hl, -⟩ | ⟨y, z, -, -, rfl⟩
    · cases hl
    · rw [drawLots_of_last hrunning hgetLast hadd] at h
      by_cases hfinite : (y + z).isFinite = true
      · rw [if_pos hfinite] at h
        obtain ⟨hr, -⟩ := Prod.mk.inj (Except.ok.inj h)
        exact ⟨_, rfl, hfinite, hr⟩
      · rw [if_neg hfinite] at h
        cases h

/-- Whenever a rule without a positive weight is picked, it is the last one, and the sum of the
shares is at most `2 ^ -1022`. -/
theorem last_of_not_isPositive (hpos : ∃ r ∈ first :: others, r.isPositive = true) {draws : Draws}
    {r : Rule} {left : Draws} (hdraw : draws.next.IsDraw)
    (hpick : drawLots (first :: others) draws = .ok (some r, left))
    (hnot : ¬ r.isPositive = true) :
    (first :: others).getLast? = some r ∧ last.le (.double .leastNormal) = true := by
  have hfirst := first.share_not_lt_zero
  have hothers := Rule.map_share_not_lt_zero others
  obtain ⟨x, hadd, hfinite, hr⟩ := exists_of_drawLots hsums hlast hpick
  have hlastFinite := (Number.isFinite_of_addShares hadd hfinite).1
  obtain ⟨t, ht⟩ := Number.exists_hasSize (last_not_lt_zero hsums hlast) hlastFinite
  have hx := ht.add_zero hadd
  have hxpos : Double.zero.lt x = true :=
    (Number.hasSize_zero.lt_iff hx).mpr (Magnitude.rounded_pos (last_pos hsums hlast ht hpos))
  -- the share that is picked is zero
  obtain ⟨j, hj, -⟩ := exists_share hsums hlast ht (List.mem_of_getElem? hr)
  rw [Rule.isPositive_iff hj, Nat.not_lt, Nat.le_zero] at hnot
  have hshare : (first.share :: others.map Rule.share)[shareIndex sums (draws.next * x)]?
      = some r.share := by
    rw [← List.map_cons, List.getElem?_map, hr]
    rfl
  obtain ⟨hindex, hreached⟩ := Number.shareIndex_of_zero hsums hfirst hothers hlast ht
    (hdraw.zero_le_mul hxpos hfinite) hshare (hnot ▸ hj)
  constructor
  · rw [hindex, List.length_map] at hr
    rw [List.getLast?_eq_getElem?, List.length_cons, Nat.add_sub_cancel, hr]
  · -- the product has reached the last sum as a double, too
    have hxreached := Number.le_of_rounded (hdraw.zero_le_mul hxpos hfinite) ht hreached hx
      (Or.inr rfl)
    have hsmall : (Number.double x).le (.double .leastNormal) = true :=
      (Double.exists_le_mul_iff hxpos hfinite).mp ⟨_, hdraw, hxreached⟩
    have hround := (hx.le_iff Number.hasSize_leastNormal).mp hsmall
    rw [Magnitude.rounded_eq_self hround] at hround
    exact (ht.le_iff Number.hasSize_leastNormal).mpr hround

/-- Where the sum of the shares is at most `2 ^ -1022`, there is a draw that picks the last rule. -/
theorem exists_draw_last (hpos : ∃ r ∈ first :: others, r.isPositive = true)
    (hsmall : last.le (.double .leastNormal) = true) :
    ∃ draws : Draws, draws.next.IsDraw ∧
      drawLots (first :: others) draws = .ok ((first :: others).getLast?, draws.rest) := by
  have hfirst := first.share_not_lt_zero
  have hothers := Rule.map_share_not_lt_zero others
  have hnot := last_not_lt_zero hsums hlast
  obtain ⟨t, ht⟩ := Number.exists_hasSize hnot (Number.isFinite_of_le hnot rfl hsmall)
  have ht52 := (ht.le_iff Number.hasSize_leastNormal).mp hsmall
  have hround : Magnitude.rounded t 1 ≤ Nat.pow 2 52 :=
    Magnitude.leastNormal.rounded_le_units ht52
  -- the last sum is not rounded as it becomes a double
  obtain ⟨d, hd⟩ := ht.exists_toDouble (Nat.lt_of_le_of_lt hround Magnitude.leastNormal.units_lt)
  have hadd := Number.addShares_double hd .zero
  have hx := ht.add_zero hadd
  rw [Magnitude.rounded_eq_self hround] at hx
  have hxpos : Double.zero.lt (d + .zero) = true :=
    (Number.hasSize_zero.lt_iff hx).mpr (last_pos hsums hlast ht hpos)
  have hxsmall : (d + .zero).le .leastNormal = true :=
    (hx.le_iff Number.hasSize_leastNormal).mpr ht52
  have hfinite : (d + .zero).isFinite = true := hx.isFinite
  obtain ⟨u, hu, hle⟩ := (Double.exists_le_mul_iff hxpos hfinite).mpr hxsmall
  refine ⟨{ draw := fun _ => u }, hu, ?_⟩
  have hreached : last.le (.double (u * (d + .zero))) = true :=
    Number.le_trans ((ht.le_iff hx).mpr (Nat.le_refl t)) hle
  have hindex := Number.shareIndex_of_le hsums hfirst hothers hlast ht ht52 hreached
  have hnext : Draws.next { draw := fun _ => u } = u := rfl
  rw [drawLots_of_last (runningSums_shares hsums) (getLast?_sums hsums hlast) hadd,
    if_pos hfinite, hnext, hindex, List.length_map, List.getLast?_eq_getElem?]
  rfl

end Sums

/-- **When only rules of positive weight are picked.**  Among rules one of which at least has a
positive weight, every draw picks a rule of positive weight if and only if the last rule has one or
the sum of the shares is not at most `2 ^ -1022`. -/
theorem select_weighted_positive_iff (eligible : List Rule)
    (hpos : ∃ r ∈ eligible, r.isPositive = true) :
    (∀ (draws : Draws) (player : Value) (r : Rule) (left : Draws), draws.next.IsDraw →
        weighted.select eligible draws player = .ok (some r, left) → r.isPositive = true) ↔
      eligible.getLast?.any Rule.isPositive = true ∨
        ∀ total, totalShare (eligible.map Rule.share) = .ok total →
          total.le (.double .leastNormal) = false := by
  obtain ⟨first, others, rfl⟩ : ∃ first others, eligible = first :: others := by
    obtain ⟨r, hr, -⟩ := hpos
    exact List.exists_cons_of_ne_nil (List.ne_nil_of_mem hr)
  constructor
  · intro h
    refine or_iff_not_imp_left.mpr fun hlastRule total htotal => ?_
    obtain ⟨sums, last, hsums, hlast, hplace⟩ := exists_of_totalShare htotal
    rw [Number.le_congr hplace rfl]
    refine Bool.eq_false_iff.mpr fun hsmall => hlastRule ?_
    -- the draw that picks the last rule shows that it is positive
    obtain ⟨draws, hdraw, hpick⟩ := exists_draw_last hsums hlast hpos hsmall
    have hgetLast := List.getLast?_eq_some_getLast (List.cons_ne_nil first others)
    have hselect := select_eq_drawLots hsums hlast hplace htotal hpos draws .null
    rw [hpick, hgetLast] at hselect
    rw [hgetLast]
    exact h _ _ _ _ hdraw hselect
  · intro hcase draws player r left hdraw hpick
    by_contra hnot
    cases htotal : totalShare ((first :: others).map Rule.share) with
    | error f =>
      rw [select, htotal] at hpick
      cases hpick
    | ok total =>
      obtain ⟨sums, last, hsums, hlast, hplace⟩ := exists_of_totalShare htotal
      rw [select_eq_drawLots hsums hlast hplace htotal hpos] at hpick
      obtain ⟨hgetLast, hsmall⟩ := last_of_not_isPositive hsums hlast hpos hdraw hpick hnot
      rcases hcase with hpositive | hlarge
      · rw [hgetLast] at hpositive
        exact hnot hpositive
      · have hnotSmall := hlarge total htotal
        rw [Number.le_congr hplace rfl, hsmall] at hnotSmall
        cases hnotSmall

end Strategy

/-- A rule without a weight before one of weight zero. -/
def Sample.trailing : List Rule :=
  [{ id := "missing" }, { id := "zero", weight := some (.double .zero) }]

/-- A rule of the least positive weight, `2 ^ -1074`, before one of weight zero. -/
def Sample.faint : List Rule :=
  [{ id := "faint", weight := some (.double (.ofUnits false 1 1)) },
    { id := "zero", weight := some (.double .zero) }]

/-- Draws that are all three quarters. -/
def Sample.high : Draws := { draw := fun _ => .ofUnits false (3 * Magnitude.perOne) 4 }

namespace Strategy

/-- Behind a rule without a weight, a rule of weight zero is never picked. -/
theorem select_weighted_positive_trailing :
    (∃ r ∈ Sample.trailing, r.isPositive = true) ∧
      ∀ (draws : Draws) (player : Value) (r : Rule) (left : Draws), draws.next.IsDraw →
        weighted.select Sample.trailing draws player = .ok (some r, left) →
        r.isPositive = true := by
  have hpos : ∃ r ∈ Sample.trailing, r.isPositive = true :=
    ⟨{ id := "missing" }, List.mem_cons_self, by decide +kernel⟩
  have hlarge : (totalShare (Sample.trailing.map Rule.share)).toOption.all
      (fun total => !total.le (.double .leastNormal)) = true := by decide +kernel
  refine ⟨hpos, (select_weighted_positive_iff Sample.trailing hpos).mpr (Or.inr ?_)⟩
  intro total htotal
  rw [htotal] at hlarge
  exact Bool.not_eq_true' _ ▸ hlarge

/-- Behind a rule of the least positive weight, a rule of weight zero is picked by a draw of three
quarters: the product with the sum is rounded up to the sum. -/
theorem select_weighted_faint :
    (∃ r ∈ Sample.faint, r.isPositive = true) ∧ Sample.high.next.IsDraw ∧
      ∃ r left, weighted.select Sample.faint Sample.high = .ok (some r, left) ∧
        r.weight = some (.double .zero) ∧ r.isPositive = false := by
  have hpos : ∃ r ∈ Sample.faint, r.isPositive = true :=
    ⟨_, List.mem_cons_self, by decide +kernel⟩
  have hdraw : Sample.high.next.IsDraw := ⟨by decide +kernel, by decide +kernel⟩
  have hpick : (weighted.select Sample.faint Sample.high).toOption.bind
      (fun p => p.1.map fun r => (r.weight, r.isPositive))
        = some (some (.double .zero), false) := by
    decide +kernel
  refine ⟨hpos, hdraw, ?_⟩
  cases hselect : weighted.select Sample.faint Sample.high with
  | error f =>
    rw [hselect] at hpick
    cases hpick
  | ok p =>
    obtain ⟨picked, left⟩ := p
    rw [hselect] at hpick
    obtain ⟨r, rfl, hr⟩ := Option.map_eq_some_iff.mp hpick
    obtain ⟨hweight, hnot⟩ := Prod.mk.inj hr
    exact ⟨r, left, rfl, hweight, hnot⟩

end Strategy
end OfferRules

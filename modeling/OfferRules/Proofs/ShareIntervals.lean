import OfferRules.Proofs.PositiveWeights

/-!
# Shares as intervals

Where the running sums of the shares are doubles, they do not fall, and every number is in the
interval of exactly one share: it has reached the sum before and not the one at the place.  The
first interval is open below and the last one above.  A greater number is in the same interval or a
later one, and products with draws are in the order of the draws.

## Main definitions

* `Number.IsDouble` — a number is at the place of a finite double.
* `FallsInto` — the interval that a number is in.

## Main results

* `sumsFrom_pairwise` — running sums that are doubles do not fall.
* `FallsInto.le` — greater numbers are in later intervals.
* `Strategy.select_weighted_intervals` — **the rule that a draw picks.**
-/

namespace OfferRules

attribute [local irreducible] Magnitude.bound Magnitude.perOne

/-! ### Sums that are doubles -/

namespace Number

variable {m n : Number}

/-- A number is at the place of a finite double. -/
def IsDouble (n : Number) : Prop := ∃ d : Double, d.isFinite = true ∧ n.place? = d.place?

/-- The whole number zero is at the place of the double. -/
theorem zero_lt (n : Number) : (Number.double .zero).lt n = lt 0 n :=
  lt_congr (congrArg (some ∘ Place.units) (Int.zero_mul _)).symm rfl

theorem le_refl_of_le (h : m.le n = true) : n.le n = true := by
  obtain ⟨p, q, -, hq, -⟩ := le_eq_true.mp h
  refine le_eq_true.mpr ⟨q, q, hq, hq, ?_⟩
  cases q <;> simp [Place.le]

/-- A number that is neither above zero nor at most zero has no place. -/
theorem place?_eq_none_of_not (hlt : lt 0 n = false) (hle : n.le 0 = false) : n.place? = none := by
  cases hn : n.place? with
  | none => rfl
  | some p =>
    have hzero : (0 : Number).place? = some (.units (0 * Magnitude.perOne)) := rfl
    have hnot : p.le (.units (0 * Magnitude.perOne)) = false := by
      rwa [le, hn, hzero] at hle
    rw [lt, hzero, hn] at hlt
    dsimp only at hlt
    rw [Place.lt, hnot] at hlt
    cases hlt

theorem eq_nan_of_place? (h : n.place? = none) : n = .double .nan := by
  cases n with
  | int k => cases h
  | double d => exact congrArg Number.double (Double.place?_eq_none.mp h)

/-- A double that is not below zero has the size of a magnitude. -/
theorem IsDouble.exists_magnitude (h : n.IsDouble) (hnot : n.lt (.double .zero) = false) :
    ∃ x : Magnitude, n.HasSize x.units := by
  obtain ⟨d, hfinite, hplace⟩ := h
  have hdnot : (Number.double d).lt (.double .zero) = false := by
    rw [← hnot]
    exact lt_congr hplace.symm rfl
  obtain ⟨i, hi⟩ := exists_hasSize hdnot hfinite
  obtain ⟨-, x, -, rfl, -⟩ := hasSize_double hi
  exact ⟨x, hplace.trans hi⟩

/-- A sum of shares is at least its first part, if both are doubles. -/
theorem le_of_addShares {a b c : Number} (h : addShares a b = .ok c)
    (hanot : a.lt (.double .zero) = false) (hbnot : b.lt (.double .zero) = false)
    (ha : a.IsDouble) (hc : c.IsDouble) : a.le c = true := by
  obtain ⟨x, hx⟩ := ha.exists_magnitude hanot
  obtain ⟨z, hz⟩ := hc.exists_magnitude (addShares_not_lt_zero h hanot hbnot)
  obtain ⟨j, hj⟩ := exists_hasSize hbnot (isFinite_of_addShares h hz.isFinite).2
  have hround := rounded_le_of_addShares h hx hj hz
  rw [x.rounded_units, z.rounded_units] at hround
  exact (hx.le_iff hz).mpr hround

end Number

section Sums

variable {first : Number} {rest sums : List Number}

/-- Running sums that are doubles do not fall. -/
theorem sumsFrom_pairwise (h : sumsFrom first rest = .ok sums)
    (hfirst : first.lt (.double .zero) = false) (hrest : ∀ s ∈ rest, s.lt (.double .zero) = false)
    (hdouble : ∀ c ∈ sums, c.IsDouble) : sums.Pairwise fun a b => a.le b = true := by
  induction rest generalizing first sums with
  | nil =>
    obtain rfl := Except.ok.inj h
    exact List.pairwise_singleton _ _
  | cons s rest ih =>
    obtain ⟨next, tail, hadd, htail, rfl⟩ := sumsFrom_cons h
    rw [List.forall_mem_cons] at hrest hdouble
    have hnext := Number.addShares_not_lt_zero hadd hfirst hrest.1
    have hsorted := ih htail hnext hrest.2 hdouble.2
    have hhead := head_sumsFrom htail
    have hstep := Number.le_of_addShares hadd hfirst hrest.1 hdouble.1
      (hdouble.2 next (List.mem_of_getElem? hhead))
    refine List.pairwise_cons.mpr ⟨?_, hsorted⟩
    -- all others are at least the next one
    obtain ⟨others, rfl⟩ := List.head?_eq_some_iff.mp (List.head?_eq_getElem?.trans hhead)
    refine List.forall_mem_cons.mpr ⟨hstep, fun c hc => ?_⟩
    exact Number.le_trans hstep (List.rel_of_pairwise_cons hsorted hc)

end Sums

/-! ### Intervals -/

/-- A number is in the interval of the share at a place: it has reached the sum before, if there is
one, and not the sum at the place, if this is not the last. -/
structure FallsInto (sums : List Number) (x : Double) (i : Nat) : Prop where
  /-- There is such a share. -/
  lt_length : i < sums.length
  /-- The sum before is reached. -/
  reached : ∀ c, 0 < i → sums[i - 1]? = some c → c.le (.double x) = true
  /-- The sum at the place is not reached. -/
  below : ∀ c, i + 1 < sums.length → sums[i]? = some c → (Number.double x).lt c = true

/-- A greater number is in no earlier interval. -/
theorem FallsInto.le {sums : List Number} {x y : Double} {i j : Nat} (hi : FallsInto sums x i)
    (hj : FallsInto sums y j) (hsorted : sums.Pairwise fun a b => a.le b = true)
    (hle : x.le y = true) : i ≤ j := by
  by_contra hlt
  rw [Nat.not_le] at hlt
  have hlength := hi.lt_length
  -- the lesser number has reached the sum at the place of the greater one
  have hbefore := hi.reached _ (Nat.zero_lt_of_lt hlt)
    (List.getElem?_eq_getElem (by omega : i - 1 < sums.length))
  have hbelow := hj.below _ (by omega) (List.getElem?_eq_getElem hj.lt_length)
  have hreached : sums[j].le (.double x) = true := by
    rcases Nat.eq_or_lt_of_le (Nat.le_sub_one_of_lt hlt) with rfl | hless
    · exact hbefore
    · exact Number.le_trans (List.pairwise_iff_getElem.mp hsorted _ _ _ _ hless) hbefore
  have hle' : (Number.double x).le (.double y) = true := hle
  rw [Number.not_lt_of_le (Number.le_trans hreached hle')] at hbelow
  cases hbelow

/-- Halving finds the interval, if all sums have sizes. -/
theorem fallsInto_shareIndex {sums : List Number} {x : Double} (hne : sums ≠ [])
    (hsizes : ∀ c ∈ sums, ∃ i, c.HasSize i) (hx : x ≠ .nan) :
    FallsInto sums x (shareIndex sums x) := by
  obtain ⟨-, hbefore, hat⟩ := shareIndex_spec sums x
  refine ⟨shareIndex_lt hne x, ?_, ?_⟩
  · intro c hpos hc
    obtain ⟨i, hi⟩ := hsizes c (List.mem_of_getElem? hc)
    exact (hi.not_lt hx).mp (hbefore _ c (by omega) hc)
  · intro c hlt hc
    obtain ⟨c', hc', hbeyond⟩ := hat (by omega)
    obtain rfl := Option.some.inj (hc.symm.trans hc')
    exact hbeyond

namespace Strategy

section Draws

variable {eligible : List Rule} {first : Rule} {others : List Rule} {sums : List Number}
  {last : Number} {d : Double}
  (hsums : sumsFrom first.share (others.map Rule.share) = .ok sums)
  (hlast : sums.getLast? = some last) (hdouble : ∀ c ∈ sums, c.IsDouble)

include hsums

theorem length_sums : sums.length = (first :: others).length := by
  rw [length_sumsFrom hsums, List.length_map, List.length_cons]

section Doubles

include hdouble

theorem pairwise_sums : sums.Pairwise fun a b => a.le b = true :=
  sumsFrom_pairwise hsums first.share_not_lt_zero (Rule.map_share_not_lt_zero others) hdouble

/-- Each of the sums has the size of a magnitude. -/
theorem exists_magnitude_sums : ∀ c ∈ sums, ∃ x : Magnitude, c.HasSize x.units := fun c hc =>
  (hdouble c hc).exists_magnitude (Number.sumsFrom_not_lt_zero hsums first.share_not_lt_zero
    (Rule.map_share_not_lt_zero others) c hc)

include hlast in
/-- The last sum is a positive double, by which the draws are multiplied. -/
theorem exists_last_double (hpos : (Number.double .zero).lt last = true) :
    ∃ d : Double, d.place? = last.place? ∧ Double.zero.lt d = true ∧ d.isFinite = true ∧
      addShares last (.double .zero) = .ok (.double d) := by
  obtain ⟨x, hx⟩ := exists_magnitude_sums hsums hdouble last (List.mem_of_getLast? hlast)
  have hround : Magnitude.rounded x.units 1 < Magnitude.bound := by
    rw [x.rounded_units]
    exact x.units_lt
  obtain ⟨d, hd⟩ := hx.exists_toDouble hround
  have hadd := Number.addShares_double hd .zero
  have hsize := hx.add_zero hadd
  rw [x.rounded_units] at hsize
  have hplace : (Number.double (d + .zero)).place? = last.place? := hsize.trans hx.symm
  have hlt : (Number.double .zero).lt (.double (d + .zero)) = true := by
    rw [← hpos]
    exact Number.lt_congr rfl hplace
  have hfinite : (Number.double (d + .zero)).isFinite = true := hsize.isFinite
  exact ⟨d + Double.zero, hplace, hlt, hfinite, hadd⟩

end Doubles

include hlast

/-- Where the last sum is positive and finite, a rule is drawn. -/
theorem select_of_sums (hpos : (Number.double .zero).lt last = true)
    (hd : addShares last (.double .zero) = .ok (.double d)) (hfinite : d.isFinite = true)
    (draws : Draws) (player : Value) :
    weighted.select (first :: others) draws player
      = .ok ((first :: others)[shareIndex sums (draws.next * d)]?, draws.rest) := by
  obtain ⟨total, htotal⟩ := exists_totalShare hsums
  obtain ⟨sums', last', hsums', hlast', hplace⟩ := exists_of_totalShare htotal
  obtain rfl := Except.ok.inj (hsums.symm.trans hsums')
  obtain rfl := Option.some.inj (hlast.symm.trans (getLast?_sums hsums hlast'))
  have hnot : ¬ total.le 0 = true := by
    rw [Number.le_congr hplace rfl]
    intro hle
    rw [Number.zero_lt, Number.not_lt_of_le hle] at hpos
    cases hpos
  rw [select_weighted (List.cons_ne_nil _ _) htotal, if_neg hnot,
    drawLots_of_last (runningSums_shares hsums) hlast hd, if_pos hfinite]

end Draws

/-- Where the sum is not positive, nothing is drawn: the first rule is taken, or the sum is not a
number and the selection fails. -/
theorem select_of_not_pos (hne : eligible ≠ []) {total : Number}
    (htotal : totalShare (eligible.map Rule.share) = .ok total)
    (hnot : (Number.double .zero).lt total = false) (draws : Draws) (player : Value) :
    weighted.select eligible draws player
      = if total.le 0 then .ok (eligible.head?, draws) else .error .weightTotal := by
  rw [select_weighted hne htotal]
  by_cases hle : total.le 0 = true
  · rw [if_pos hle, if_pos hle]
  rw [if_neg hle, if_neg hle]
  obtain ⟨first, others, rfl⟩ := List.exists_cons_of_ne_nil hne
  obtain ⟨sums, last, hsums, hlast, hplace⟩ := exists_of_totalShare htotal
  -- neither positive nor at most zero, the sum is not a number
  rw [Number.zero_lt] at hnot
  have hnone := Number.place?_eq_none_of_not hnot (Bool.eq_false_iff.mpr hle)
  rw [hplace] at hnone
  obtain rfl := Number.eq_nan_of_place? hnone
  exact drawLots_of_last (runningSums_shares hsums) (getLast?_sums hsums hlast) rfl draws

/-- **The rule that a draw picks.**  Where the running sums are doubles and the last one is
positive, they do not fall, and each product of a draw with the last one is in the interval of
exactly one share, the rule of which is picked; a greater draw picks the same rule or a later one,
and one draw is taken.  No draw is taken where there are no rules, or where the sum is not
positive. -/
theorem select_weighted_intervals (eligible : List Rule) (player : Value) :
    (∀ sums last, runningSums (eligible.map Rule.share) = .ok sums → sums.getLast? = some last →
      (∀ c ∈ sums, c.IsDouble) → (Number.double .zero).lt last = true →
      sums.length = eligible.length ∧ sums.Pairwise (fun a b => a.le b = true) ∧
      ∃ d : Double, d.place? = last.place? ∧
        (∀ u : Double, u.IsDraw → ∃! i, FallsInto sums (u * d) i) ∧
        (∀ (draws : Draws) (i : Nat), draws.next.IsDraw → FallsInto sums (draws.next * d) i →
          ∃ r, eligible[i]? = some r ∧
            weighted.select eligible draws player = .ok (some r, draws.rest)) ∧
        ∀ (u v : Double) (i j : Nat), u.IsDraw → v.IsDraw → u.le v = true →
          FallsInto sums (u * d) i → FallsInto sums (v * d) j → i ≤ j) ∧
    (∀ draws, eligible = [] → weighted.select eligible draws player = .ok (none, draws)) ∧
    ∀ total draws, eligible ≠ [] → totalShare (eligible.map Rule.share) = .ok total →
      (Number.double .zero).lt total = false →
      weighted.select eligible draws player
        = if total.le 0 then .ok (eligible.head?, draws) else .error .weightTotal := by
  refine ⟨?_, ?_, fun total draws hne htotal hnot => select_of_not_pos hne htotal hnot draws player⟩
  · intro sums last hsums hlast hdouble hpos
    obtain ⟨first, others, rfl⟩ : ∃ first others, eligible = first :: others := by
      refine List.exists_cons_of_ne_nil ?_
      rintro rfl
      obtain rfl := Except.ok.inj hsums
      cases hlast
    have hsorted := pairwise_sums hsums hdouble
    have hlength := length_sums hsums
    have hne : sums ≠ [] := List.ne_nil_of_length_eq_add_one hlength
    obtain ⟨d, hplace, hdpos, hfinite, hadd⟩ := exists_last_double hsums hlast hdouble hpos
    have hsizes : ∀ c ∈ sums, ∃ i, c.HasSize i := fun c hc =>
      (exists_magnitude_sums hsums hdouble c hc).imp' Magnitude.units fun _ h => h
    -- the product with a draw is in the interval that halving finds, and in no other
    have hfalls : ∀ u : Double, u.IsDraw → FallsInto sums (u * d) (shareIndex sums (u * d)) :=
      fun u hu => fallsInto_shareIndex hne hsizes
        (Number.ne_nan_of_le (m := .double .zero) (hu.zero_le_mul hdpos hfinite))
    have hmono : ∀ (u v : Double) (i j : Nat), u.IsDraw → v.IsDraw → u.le v = true →
        FallsInto sums (u * d) i → FallsInto sums (v * d) j → i ≤ j :=
      fun u v i j hu hv hle hi hj => hi.le hj hsorted (hu.mul_le_mul hv hle hdpos hfinite)
    have hunique : ∀ (u : Double) (i j : Nat), u.IsDraw → FallsInto sums (u * d) i →
        FallsInto sums (u * d) j → i = j := by
      intro u i j hu hi hj
      have hzero : (Number.double .zero).le (.double u) = true := hu.1
      have hrefl : u.le u = true := Number.le_refl_of_le hzero
      exact Nat.le_antisymm (hmono u u i j hu hu hrefl hi hj) (hmono u u j i hu hu hrefl hj hi)
    refine ⟨hlength, hsorted, d, hplace, ?_, ?_, hmono⟩
    · exact fun u hu => ⟨_, hfalls u hu, fun i hi => hunique u i _ hu hi (hfalls u hu)⟩
    · intro draws i hdraw hi
      obtain rfl := hunique _ _ _ hdraw hi (hfalls _ hdraw)
      have hlt := hi.lt_length
      rw [hlength] at hlt
      refine ⟨_, List.getElem?_eq_getElem hlt, ?_⟩
      rw [select_of_sums hsums hlast hpos hadd hfinite, List.getElem?_eq_getElem hlt]
  · rintro draws rfl
    rfl

/-- Shares of one, nothing and two: a draw of three quarters is in the interval of the third. -/
theorem select_weighted_intervals_three :
    ∃ sums last, runningSums (Sample.weighed.map Rule.share) = .ok sums ∧
      sums.getLast? = some last ∧ (∀ c ∈ sums, c.IsDouble) ∧
      (Number.double .zero).lt last = true ∧ Sample.high.next.IsDraw ∧
      ∃ r, Sample.weighed[2]? = some r ∧
        weighted.select Sample.weighed Sample.high = .ok (some r, Sample.high.rest) := by
  have hw : ∀ r ∈ Sample.weighed, r.IsWeighed := by simp [Sample.weighed, Rule.IsWeighed]
  have hdraw : Sample.high.next.IsDraw := ⟨by decide +kernel, by decide +kernel⟩
  have hsums : runningSums (Sample.weighed.map Rule.share)
      = .ok ((List.scanl (· + ·) Double.one [.zero, .ofNat 2]).map .double) := by
    rw [Rule.map_share hw]
    have hlots : Sample.weighed.map Rule.lot = [.one, .zero, .ofNat 2] := by decide +kernel
    rw [hlots]
    exact sumsFrom_lots _ _
  have hdouble : ∀ c ∈ (List.scanl (· + ·) Double.one [.zero, .ofNat 2]).map Number.double,
      c.IsDouble := by
    have hfinite : ∀ d ∈ List.scanl (· + ·) Double.one [.zero, .ofNat 2], d.isFinite = true := by
      decide +kernel
    exact List.forall_mem_map.mpr fun d hd => ⟨d, hfinite d hd, rfl⟩
  have hpos : (Number.double .zero).lt (.double (Double.one + .zero + .ofNat 2)) = true := by
    decide +kernel
  have hlast : ((List.scanl (· + ·) Double.one [.zero, .ofNat 2]).map Number.double).getLast?
      = some (.double (Double.one + .zero + .ofNat 2)) := rfl
  obtain ⟨-, -, d, hplace, -, hpick, -⟩ := (select_weighted_intervals Sample.weighed .null).1
    _ _ hsums hlast hdouble hpos
  refine ⟨_, _, hsums, hlast, hdouble, hpos, hdraw, hpick Sample.high 2 hdraw ?_⟩
  -- a positive place is that of one double only
  obtain rfl : d = Double.one + .zero + .ofNat 2 := by
    rcases Double.place?_eq_iff.mp hplace with h | ⟨-, hzero⟩
    · exact h
    · have hnot : (Double.one + .zero + .ofNat 2).isZero = false := by decide +kernel
      rw [hnot] at hzero
      cases hzero
  refine ⟨by decide, ?_, ?_⟩
  · intro c _ hc
    obtain rfl := Option.some.inj hc
    decide +kernel
  · intro c hlt
    exact absurd hlt (by decide)

end Strategy
end OfferRules

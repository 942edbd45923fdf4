import OfferRules.Proofs.Outcome
import OfferRules.Proofs.ShareSizes

/-!
# Running sums

The running sums of shares are sought by halving.  Whatever their order is, a number has reached the
sum before the place that is found, and not the one at this place.  Shares are not below zero, so
their sums have sizes as long as the last one is finite, and rounded to doubles the sums never fall.

A share of zero leaves the sum where it is, or rounds it to a double.  No double lies between a
number and what it is rounded to, so nothing falls into such a share, unless it is the last one.

## Main results

* `shareIndex_spec` — **the place that a number falls into**, also where the sums are out of order.
* `sumsFrom_step`, `exists_sumsFrom` — one running sum and the next, and the last one.
* `Number.rounded_le_last`, `Number.hasSize_of_last` — the sizes of sums and shares.
* `Number.shareIndex_of_zero` — **when a number falls into a share of zero.**
* `Number.shareIndex_of_le` — when it falls into the last share.
* `exists_of_totalShare`, `exists_totalShare` — the sum of shares is in the place of the last
  running sum, and there is one as soon as there are running sums.
-/

namespace OfferRules

/-! ### Halving -/

/-- What is sought is beyond no place below the one that is found, seen from its neighbour, and the
one that is found is beyond it, unless it is the last. -/
theorem bisect_spec {beyond : Nat → Bool} {last steps low high : Nat} (hsteps : high ≤ low + steps)
    (hle : low ≤ high) (hlast : high ≤ last) (hlow : 0 < low → beyond (low - 1) = false)
    (hhigh : high < last → beyond high = true) :
    bisect beyond steps low high ≤ last ∧
      (0 < bisect beyond steps low high → beyond (bisect beyond steps low high - 1) = false) ∧
      (bisect beyond steps low high < last → beyond (bisect beyond steps low high) = true) := by
  induction steps generalizing low high with
  | zero =>
    obtain rfl : low = high := Nat.le_antisymm hle hsteps
    exact ⟨hlast, hlow, hhigh⟩
  | succ steps ih =>
    rw [bisect]
    by_cases hlt : low < high
    · rw [if_pos hlt]
      dsimp only
      by_cases hmiddle : beyond ((low + high) / 2) = true
      · -- below the middle, which becomes the upper end
        rw [if_pos hmiddle]
        exact ih (by omega) (by omega) (by omega) hlow fun _ => hmiddle
      · -- above the middle, which stands right before the new lower end
        rw [if_neg hmiddle]
        refine ih (by omega) (by omega) hlast (fun _ => ?_) hhigh
        rw [Nat.add_sub_cancel]
        exact Bool.eq_false_iff.mpr hmiddle
    · rw [if_neg hlt]
      obtain rfl : low = high := Nat.le_antisymm hle (Nat.le_of_not_lt hlt)
      exact ⟨hlast, hlow, hhigh⟩

/-- Among the places before the last one, halving finds one that is beyond what is sought, next to
one that is not. -/
theorem bisect_zero (beyond : Nat → Bool) (last : Nat) :
    bisect beyond last 0 last ≤ last ∧
      (0 < bisect beyond last 0 last → beyond (bisect beyond last 0 last - 1) = false) ∧
      (bisect beyond last 0 last < last → beyond (bisect beyond last 0 last) = true) := by
  refine bisect_spec (Nat.le_add_left _ _) (Nat.zero_le _) (Nat.le_refl _) ?_ ?_
  · intro h
    exact absurd h (Nat.lt_irrefl 0)
  · intro h
    exact absurd h (Nat.lt_irrefl _)

/-- **The place that a number falls into**: it has reached the sum before, if there is one, and not
the one at the place, if this is not the last. -/
theorem shareIndex_spec (sums : List Number) (x : Double) :
    shareIndex sums x ≤ sums.length - 1 ∧
      (∀ i c, shareIndex sums x = i + 1 → sums[i]? = some c → (Number.double x).lt c = false) ∧
      (shareIndex sums x < sums.length - 1 →
        ∃ c, sums[shareIndex sums x]? = some c ∧ (Number.double x).lt c = true) := by
  obtain ⟨hle, hbefore, hat⟩ := bisect_zero
    (fun i => sums[i]?.any fun c => (Number.double x).lt c) (sums.length - 1)
  refine ⟨hle, ?_, ?_⟩
  · intro i c hi hc
    unfold shareIndex at hi
    rw [hi] at hbefore
    have hnot := hbefore (Nat.succ_pos i)
    rw [Nat.add_sub_cancel, hc] at hnot
    exact hnot
  · intro hlt
    have hbeyond := hat hlt
    cases hc : sums[shareIndex sums x]? with
    | none =>
      unfold shareIndex at hc
      rw [hc] at hbeyond
      cases hbeyond
    | some c =>
      unfold shareIndex at hc
      rw [hc] at hbeyond
      exact ⟨c, rfl, hbeyond⟩

/-! ### Sums -/

variable {first : Number} {rest sums : List Number}

theorem sumsFrom_cons {s : Number} (h : sumsFrom first (s :: rest) = .ok sums) :
    ∃ next tail, addShares first s = .ok next ∧ sumsFrom next rest = .ok tail ∧
      sums = first :: tail := by
  rw [sumsFrom, bind_eq_ok] at h
  obtain ⟨next, hadd, h⟩ := h
  obtain ⟨tail, htail, hsums⟩ := bind_eq_ok.mp h
  exact ⟨next, tail, hadd, htail, (Except.ok.inj hsums).symm⟩

theorem length_sumsFrom (h : sumsFrom first rest = .ok sums) : sums.length = rest.length + 1 := by
  induction rest generalizing first sums with
  | nil =>
    obtain rfl := Except.ok.inj h
    rfl
  | cons s rest ih =>
    obtain ⟨next, tail, -, htail, rfl⟩ := sumsFrom_cons h
    rw [List.length_cons, List.length_cons, ih htail]

theorem head_sumsFrom (h : sumsFrom first rest = .ok sums) : sums[0]? = some first := by
  cases rest with
  | nil =>
    obtain rfl := Except.ok.inj h
    rfl
  | cons s rest =>
    obtain ⟨next, tail, -, -, rfl⟩ := sumsFrom_cons h
    rfl

/-- Each running sum is the one before with a share added. -/
theorem sumsFrom_step (h : sumsFrom first rest = .ok sums) {i : Nat} {s : Number}
    (hs : rest[i]? = some s) :
    ∃ a b, sums[i]? = some a ∧ sums[i + 1]? = some b ∧ addShares a s = .ok b := by
  induction rest generalizing first sums i with
  | nil => cases hs
  | cons d rest ih =>
    obtain ⟨next, tail, hadd, htail, rfl⟩ := sumsFrom_cons h
    cases i with
    | zero =>
      obtain rfl := Option.some.inj hs
      exact ⟨first, next, rfl, head_sumsFrom htail, hadd⟩
    | succ i => exact ih htail hs

/-- Where there is a sum of all shares, there are running sums that end in it. -/
theorem exists_sumsFrom {last : Number} (h : rest.foldlM addShares first = .ok last) :
    ∃ sums, sumsFrom first rest = .ok sums ∧ sums[rest.length]? = some last := by
  induction rest generalizing first with
  | nil =>
    obtain rfl := Except.ok.inj h
    exact ⟨[first], rfl, rfl⟩
  | cons s rest ih =>
    rw [List.foldlM_cons, bind_eq_ok] at h
    obtain ⟨next, hadd, h⟩ := h
    obtain ⟨tail, htail, hlast⟩ := ih h
    refine ⟨first :: tail, ?_, hlast⟩
    rw [sumsFrom]
    exact bind_eq_ok.mpr ⟨next, hadd, bind_eq_ok.mpr ⟨tail, htail, rfl⟩⟩

/-- A number that has reached the sum at its place falls into the last share. -/
theorem shareIndex_of_reached {x : Double} {c : Number} (h : sumsFrom first rest = .ok sums)
    (hc : sums[shareIndex sums x]? = some c) (hreached : c.le (.double x) = true) :
    shareIndex sums x = rest.length := by
  obtain ⟨hle, -, hat⟩ := shareIndex_spec sums x
  rw [length_sumsFrom h, Nat.add_sub_cancel] at hle hat
  refine (Nat.eq_or_lt_of_le hle).resolve_right fun hlt => ?_
  obtain ⟨c', hc', hbeyond⟩ := hat hlt
  obtain rfl := Option.some.inj (hc.symm.trans hc')
  rw [Number.not_lt_of_le hreached] at hbeyond
  cases hbeyond

theorem exists_shareIndex (h : sumsFrom first rest = .ok sums) (x : Double) :
    ∃ c, sums[shareIndex sums x]? = some c := by
  have hle := (shareIndex_spec sums x).1
  have hlt : shareIndex sums x < sums.length := by
    rw [length_sumsFrom h] at hle ⊢
    omega
  exact ⟨_, List.getElem?_eq_getElem hlt⟩

/-! ### Sizes of sums -/

namespace Number

theorem sumsFrom_not_lt_zero (h : sumsFrom first rest = .ok sums)
    (hfirst : first.lt (.double .zero) = false)
    (hrest : ∀ s ∈ rest, s.lt (.double .zero) = false) :
    ∀ c ∈ sums, c.lt (.double .zero) = false := by
  induction rest generalizing first sums with
  | nil =>
    obtain rfl := Except.ok.inj h
    exact List.forall_mem_singleton.mpr hfirst
  | cons s rest ih =>
    obtain ⟨next, tail, hadd, htail, rfl⟩ := sumsFrom_cons h
    rw [List.forall_mem_cons] at hrest ⊢
    exact ⟨hfirst, ih htail (addShares_not_lt_zero hadd hfirst hrest.1) hrest.2⟩

section Sized

variable {last : Number} {t : Nat} (h : sumsFrom first rest = .ok sums)
  (hfirst : first.lt (.double .zero) = false) (hrest : ∀ s ∈ rest, s.lt (.double .zero) = false)
  (hlast : sums[rest.length]? = some last) (ht : last.HasSize t)

include h hfirst hrest hlast ht

/-- Rounded to doubles, running sums are at most the last one. -/
theorem rounded_le_last :
    ∀ c ∈ sums, ∃ i, c.HasSize i ∧ Magnitude.rounded i 1 ≤ Magnitude.rounded t 1 := by
  induction rest generalizing first sums with
  | nil =>
    obtain rfl := Except.ok.inj h
    obtain rfl := Option.some.inj hlast
    exact List.forall_mem_singleton.mpr ⟨t, ht, Nat.le_refl _⟩
  | cons s rest ih =>
    obtain ⟨next, tail, hadd, htail, rfl⟩ := sumsFrom_cons h
    rw [List.forall_mem_cons] at hrest
    have hnext := addShares_not_lt_zero hadd hfirst hrest.1
    have hsizes := ih htail hnext hrest.2 hlast
    -- the next sum is finite, and so are its two parts
    obtain ⟨k, hk, hle⟩ := hsizes next (List.mem_of_getElem? (head_sumsFrom htail))
    obtain ⟨hfinite, hfinites⟩ := isFinite_of_addShares hadd hk.isFinite
    obtain ⟨i, hi⟩ := exists_hasSize hfirst hfinite
    obtain ⟨j, hj⟩ := exists_hasSize hrest.1 hfinites
    have hround := rounded_le_of_addShares hadd hi hj hk
    exact List.forall_mem_cons.mpr ⟨⟨i, hi, Nat.le_trans hround hle⟩, hsizes⟩

/-- All shares have sizes, and the last sum is positive if one of them is. -/
theorem hasSize_of_last : ∀ s ∈ first :: rest, ∃ j, s.HasSize j ∧ (0 < j → 0 < t) := by
  have hsizes := rounded_le_last h hfirst hrest hlast ht
  have hpos : ∀ {i}, 0 < i → Magnitude.rounded i 1 ≤ Magnitude.rounded t 1 → 0 < t := by
    intro i hi hle
    have hround := Nat.lt_of_lt_of_le (Magnitude.rounded_pos hi) hle
    refine Nat.pos_of_ne_zero ?_
    rintro rfl
    exact absurd hround (Nat.not_lt_of_le (Nat.le_of_eq Magnitude.zero.rounded_units))
  refine List.forall_mem_cons.mpr ⟨?_, ?_⟩
  · obtain ⟨i, hi, hle⟩ := hsizes first (List.mem_of_getElem? (head_sumsFrom h))
    exact ⟨i, hi, fun h => hpos h hle⟩
  · intro s hs
    obtain ⟨n, hn⟩ := List.mem_iff_getElem?.mp hs
    obtain ⟨a, b, ha, hb, hadd⟩ := sumsFrom_step h hn
    obtain ⟨i, hi, -⟩ := hsizes a (List.mem_of_getElem? ha)
    obtain ⟨k, hk, hle⟩ := hsizes b (List.mem_of_getElem? hb)
    obtain ⟨j, hj⟩ := exists_hasSize (hrest s hs) (isFinite_of_addShares hadd hk.isFinite).2
    exact ⟨j, hj, fun h => hpos (pos_of_addShares hadd hi hj hk h) hle⟩

/-- A number in a share of zero has reached the sum at its place, as it has reached the one
before. -/
theorem reached_of_zero {x : Double} (hx : Double.zero.le x = true) {s c : Number}
    (hs : (first :: rest)[shareIndex sums x]? = some s) (hzero : s.HasSize 0)
    (hc : sums[shareIndex sums x]? = some c) : c.le (.double x) = true := by
  have hsizes := rounded_le_last h hfirst hrest hlast ht
  cases hi : shareIndex sums x with
  | zero =>
    rw [hi] at hs hc
    obtain rfl := Option.some.inj hs
    obtain rfl := Option.some.inj (hc.symm.trans (head_sumsFrom h))
    rw [le_congr (hzero.trans hasSize_zero.symm) rfl]
    exact hx
  | succ i =>
    -- from the sum before, adding the share leads no farther than the next double
    rw [hi] at hs hc
    obtain ⟨a, b, ha, hb, hadd⟩ := sumsFrom_step h hs
    obtain rfl := Option.some.inj (hc.symm.trans hb)
    obtain ⟨k, hk, -⟩ := hsizes a (List.mem_of_getElem? ha)
    obtain ⟨l, hl, -⟩ := hsizes c (List.mem_of_getElem? hc)
    have hxnan : x ≠ .nan := ne_nan_of_le (m := .double .zero) hx
    have hbefore : a.le (.double x) = true :=
      (hk.not_lt hxnan).mp ((shareIndex_spec sums x).2.1 i a hi ha)
    exact le_of_rounded hx hk hbefore hl (size_of_addShares_zero hadd hk hzero hl)

/-- **When a number falls into a share of zero**: the share is the last one, and the number has
reached the last sum. -/
theorem shareIndex_of_zero {x : Double} (hx : Double.zero.le x = true) {s : Number}
    (hs : (first :: rest)[shareIndex sums x]? = some s) (hzero : s.HasSize 0) :
    shareIndex sums x = rest.length ∧ last.le (.double x) = true := by
  obtain ⟨c, hc⟩ := exists_shareIndex h x
  have hreached := reached_of_zero h hfirst hrest hlast ht hx hs hzero hc
  have hindex := shareIndex_of_reached h hc hreached
  rw [hindex, hlast] at hc
  obtain rfl := Option.some.inj hc
  exact ⟨hindex, hreached⟩

/-- A number that has reached a last sum of at most `2 ^ 52` units falls into the last share. -/
theorem shareIndex_of_le {x : Double} (hsmall : t ≤ Nat.pow 2 52)
    (hx : last.le (.double x) = true) : shareIndex sums x = rest.length := by
  obtain ⟨c, hc⟩ := exists_shareIndex h x
  obtain ⟨i, hi, hround⟩ := rounded_le_last h hfirst hrest hlast ht c (List.mem_of_getElem? hc)
  -- sums of so few units are not rounded
  have hlarge : Magnitude.rounded t 1 ≤ Nat.pow 2 52 :=
    Magnitude.leastNormal.rounded_le_units hsmall
  rw [Magnitude.rounded_eq_self (Nat.le_trans hround hlarge), Magnitude.rounded_eq_self hlarge]
    at hround
  exact shareIndex_of_reached h hc (le_trans ((hi.le_iff ht).mpr hround) hx)

end Sized

/-! ### The sum of all -/

/-- Numbers that are equal, or doubles in the same place. -/
def Like (m n : Number) : Prop :=
  m = n ∨ ∃ d e, m = .double d ∧ n = .double e ∧ d.place? = e.place?

theorem Like.place? {m n : Number} (h : m.Like n) : m.place? = n.place? := by
  rcases h with rfl | ⟨d, e, rfl, rfl, h⟩
  · rfl
  · exact h

theorem Like.symm {m n : Number} (h : m.Like n) : n.Like m := by
  rcases h with rfl | ⟨d, e, rfl, rfl, h⟩
  · exact Or.inl rfl
  · exact Or.inr ⟨e, d, rfl, rfl, h.symm⟩

theorem Like.addShares {m n s a : Number} (h : m.Like n) (hadd : addShares m s = .ok a) :
    ∃ b, OfferRules.addShares n s = .ok b ∧ a.Like b := by
  rcases h with rfl | ⟨d, e, rfl, rfl, h⟩
  · exact ⟨a, hadd, Or.inl rfl⟩
  · rcases cases_of_addShares hadd with ⟨k, l, hk, -⟩ | ⟨x, y, hx, hy, rfl⟩
    · cases hk
    · obtain rfl := Option.some.inj hx
      exact ⟨_, double_addShares e hy, Or.inr ⟨_, _, rfl, rfl, Double.place?_add_congr h y⟩⟩

theorem Like.foldlM {m n a : Number} (h : m.Like n) {shares : List Number}
    (hsum : shares.foldlM OfferRules.addShares m = .ok a) :
    ∃ b, shares.foldlM OfferRules.addShares n = .ok b ∧ a.Like b := by
  induction shares generalizing m n with
  | nil =>
    obtain rfl := Except.ok.inj hsum
    exact ⟨n, rfl, h⟩
  | cons s shares ih =>
    rw [List.foldlM_cons, bind_eq_ok] at hsum
    obtain ⟨c, hadd, hsum⟩ := hsum
    obtain ⟨d, hd, hlike⟩ := h.addShares hadd
    obtain ⟨b, hb, hab⟩ := ih hlike hsum
    refine ⟨b, ?_, hab⟩
    rw [List.foldlM_cons, hd]
    exact hb

/-- A sum starts from the whole number zero, which makes no difference in place. -/
theorem like_of_zero_addShares {n a : Number} (h : addShares 0 n = .ok a) : a.Like n := by
  cases n with
  | int k =>
    have hsum : addShares 0 (.int k) = .ok (.int (0 + k)) := rfl
    rw [Int.zero_add] at hsum
    exact Or.inl (Except.ok.inj (h.symm.trans hsum))
  | double d =>
    have hsum := addShares_double toDouble?_zero d
    obtain rfl := Except.ok.inj (h.symm.trans hsum)
    exact Or.inr ⟨_, d, rfl, rfl, Double.place?_zero_add rfl d⟩

end Number

/-- The sum of shares is in the place of the last running sum. -/
theorem exists_of_totalShare {total : Number} (h : totalShare (first :: rest) = .ok total) :
    ∃ sums last, sumsFrom first rest = .ok sums ∧ sums[rest.length]? = some last ∧
      total.place? = last.place? := by
  rw [totalShare, List.foldlM_cons, bind_eq_ok] at h
  obtain ⟨a, hadd, h⟩ := h
  obtain ⟨last, hsum, hlike⟩ := (Number.like_of_zero_addShares hadd).foldlM h
  obtain ⟨sums, hsums, hlast⟩ := exists_sumsFrom hsum
  exact ⟨sums, last, hsums, hlast, hlike.place?⟩

/-- Where there are running sums, there is a sum of all shares. -/
theorem foldlM_of_sumsFrom (h : sumsFrom first rest = .ok sums) :
    ∃ last, rest.foldlM addShares first = .ok last := by
  induction rest generalizing first sums with
  | nil => exact ⟨first, rfl⟩
  | cons s rest ih =>
    obtain ⟨next, tail, hadd, htail, -⟩ := sumsFrom_cons h
    rw [List.foldlM_cons, hadd]
    exact ih htail

theorem exists_totalShare (h : sumsFrom first rest = .ok sums) :
    ∃ total, totalShare (first :: rest) = .ok total := by
  obtain ⟨last, hlast⟩ := foldlM_of_sumsFrom h
  obtain ⟨a, hadd⟩ : ∃ a, addShares 0 first = .ok a := by
    cases first with
    | int k => exact ⟨_, rfl⟩
    | double d => exact ⟨_, Number.addShares_double Number.toDouble?_zero d⟩
  obtain ⟨total, htotal, -⟩ := (Number.like_of_zero_addShares hadd).symm.foldlM hlast
  refine ⟨total, ?_⟩
  rw [totalShare, List.foldlM_cons, hadd]
  exact htotal

end OfferRules

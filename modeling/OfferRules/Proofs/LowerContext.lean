import OfferRules.Value.View

/-!
# Lower case in context

Every character has one lower-case form but the capital sigma: it is written in its final form
where the nearest character before it that case rules do not skip has case, and the nearest one
after it has none or is not there.  So the lower-case form of a text between two others is the one
that it has by itself as long as its sigmas keep their form.

What is around a sigma within a text may *settle* its form, whatever stands around the text.  If
some sigma of a text is not settled, one letter put in front of the text or behind it changes the
form of this sigma and nothing else, and then the lower-case form of the longer text does not hold
that of the text.

## Main definitions

* `nearestCase?` — whether the nearest character that case rules do not skip has case.
* `lowerIn` — the lower-case form of a text between two others.
* `SettlesSigma`, `IsSettled` — the form of a sigma, and of all of a text, is settled.

## Main results

* `holds_iff` — what it means that a text holds another.
* `lowerIn_congr` — **the lower-case form of a text depends on the form of its sigmas alone.**
* `infix_lowerFrom` — a text whose sigmas keep their form is found within a longer one.
* `isSettled_iff` — **settled texts are those found within every longer one.**
-/

namespace OfferRules

/-! ### Texts within texts -/

theorem startsWith_iff {cs part : List CodePoint} : startsWith cs part = true ↔ part <+: cs := by
  induction cs generalizing part with
  | nil => cases part <;> simp [startsWith]
  | cons c cs ih =>
    cases part with
    | nil => simp [startsWith]
    | cons d part =>
      rw [startsWith, Bool.and_eq_true, beq_iff_eq, ih, List.cons_prefix_cons, eq_comm]

/-- A text holds another when this one stands in it as a run of characters. -/
theorem holds_iff {cs part : List CodePoint} : holds cs part = true ↔ part <:+: cs := by
  induction cs with
  | nil => rw [holds, List.isEmpty_iff, List.infix_nil]
  | cons c cs ih => rw [holds, Bool.or_eq_true, startsWith_iff, ih, List.infix_cons_iff]

/-! ### The form of a sigma -/

/-- Whether the nearest character that case rules do not skip has case, if there is one. -/
def nearestCase? (ps : List CodePoint) : Option Bool :=
  (ps.dropWhile (·.isChar isCaseIgnorable)).head?.map (·.isChar isCased)

theorem isFinalSigma_eq (before after : List CodePoint) :
    isFinalSigma before after =
      (nearestCase? before == some true && !(nearestCase? after == some true)) := by
  have hcased : ∀ ps : List CodePoint,
      (ps.dropWhile (·.isChar isCaseIgnorable)).head?.any (·.isChar isCased)
        = (nearestCase? ps == some true) := by
    intro ps
    unfold nearestCase?
    cases (ps.dropWhile (·.isChar isCaseIgnorable)).head? <;> simp
  rw [← hcased, ← hcased]
  rfl

theorem nearestCase?_cons (p : CodePoint) (ps : List CodePoint) :
    nearestCase? (p :: ps) =
      if p.isChar isCaseIgnorable then nearestCase? ps else some (p.isChar isCased) := by
  unfold nearestCase?
  rw [List.dropWhile_cons]
  split <;> rfl

/-- What is farther off matters only if all that is nearer is skipped. -/
theorem nearestCase?_append (xs ys : List CodePoint) :
    nearestCase? (xs ++ ys) = (nearestCase? xs).or (nearestCase? ys) := by
  induction xs with
  | nil => rfl
  | cons c xs ih =>
    rw [List.cons_append, nearestCase?_cons, nearestCase?_cons, ih]
    split <;> rfl

theorem nearestCase?_sigma (ps : List CodePoint) :
    nearestCase? (.char 'Σ' :: ps) = some true := by
  have hskip : CodePoint.isChar isCaseIgnorable (.char 'Σ') = false := by decide +kernel
  have hcase : CodePoint.isChar isCased (.char 'Σ') = true := by decide +kernel
  rw [nearestCase?_cons, hskip, hcase]
  rfl

/-- There is no sigma among characters that are all skipped. -/
theorem not_mem_of_nearestCase? {ps : List CodePoint} (h : nearestCase? ps = none) :
    CodePoint.char 'Σ' ∉ ps := by
  intro hmem
  obtain ⟨p, q, rfl⟩ := List.append_of_mem hmem
  rw [nearestCase?_append, nearestCase?_sigma] at h
  exact nomatch (Option.or_eq_none_iff.mp h).2

/-! ### Lower case between texts -/

/-- The lower-case form of a text between two others, the one before it nearest first. -/
def lowerIn (before after : List CodePoint) : List CodePoint → List CodePoint
  | [] => []
  | p :: rest => lowerAt before (rest ++ after) p ++ lowerIn (p :: before) after rest

theorem lowerFrom_eq (before ps : List CodePoint) : lowerFrom before ps = lowerIn before [] ps := by
  induction ps generalizing before with
  | nil => rfl
  | cons p rest ih => rw [lowerFrom, lowerIn, List.append_nil, ih]

theorem lowerIn_append (before after xs ys : List CodePoint) :
    lowerIn before after (xs ++ ys) =
      lowerIn before (ys ++ after) xs ++ lowerIn (xs.reverse ++ before) after ys := by
  induction xs generalizing before with
  | nil => rfl
  | cons c xs ih =>
    rw [List.cons_append, lowerIn, lowerIn, ih]
    simp

/-- A sigma stands within a text in the form that what is around it asks for. -/
theorem lowerIn_sigma (before after p q : List CodePoint) :
    lowerIn before after (p ++ .char 'Σ' :: q) =
      lowerIn before (.char 'Σ' :: q ++ after) p ++
        .char (if isFinalSigma (p.reverse ++ before) (q ++ after) then 'ς' else 'σ') ::
          lowerIn (.char 'Σ' :: (p.reverse ++ before)) after q := by
  rw [lowerIn_append]
  rfl

theorem lowerAt_congr {before before' after after' : List CodePoint} {p : CodePoint}
    (h : p = .char 'Σ' → isFinalSigma before after = isFinalSigma before' after') :
    lowerAt before after p = lowerAt before' after' p := by
  cases p with
  | surrogate s => rfl
  | char c =>
    unfold lowerAt
    by_cases hc : c.toNat = 0x3a3
    · rw [h (congrArg CodePoint.char (Char.toNat_inj.mp hc))]
    · simp only [if_neg hc]

/-- **The lower-case form of a text depends on the form of its sigmas alone**: between other texts
it stays the same if every sigma has the same form there. -/
theorem lowerIn_congr {before before' after after' s : List CodePoint}
    (h : ∀ p q, s = p ++ .char 'Σ' :: q →
      isFinalSigma (p.reverse ++ before) (q ++ after)
        = isFinalSigma (p.reverse ++ before') (q ++ after')) :
    lowerIn before after s = lowerIn before' after' s := by
  induction s generalizing before before' with
  | nil => rfl
  | cons c rest ih =>
    have hhere : lowerAt before (rest ++ after) c = lowerAt before' (rest ++ after') c := by
      apply lowerAt_congr
      rintro rfl
      exact h [] rest rfl
    have hrest : lowerIn (c :: before) after rest = lowerIn (c :: before') after' rest := by
      apply ih
      intro p q hpq
      simpa using h (c :: p) q (by rw [hpq, List.cons_append])
    rw [lowerIn, lowerIn, hhere, hrest]

/-- A text whose sigmas keep their form between two others is found within the three. -/
theorem infix_lowerFrom {s before after : List CodePoint}
    (h : ∀ p q, s = p ++ .char 'Σ' :: q →
      isFinalSigma (p.reverse ++ before.reverse) (q ++ after) = isFinalSigma p.reverse q) :
    lowerFrom [] s <:+: lowerFrom [] (before ++ s ++ after) := by
  have hsame : lowerFrom [] s = lowerIn before.reverse after s := by
    rw [lowerFrom_eq]
    apply lowerIn_congr
    intro p q hpq
    rw [List.append_nil, List.append_nil, h p q hpq]
  refine ⟨lowerIn [] (s ++ after) before, lowerIn (s.reverse ++ before.reverse) [] after, ?_⟩
  rw [hsame, lowerFrom_eq, List.append_assoc before, lowerIn_append, lowerIn_append]
  simp

/-- Beside texts in which the nearest character has no case, as beside the ends of a text, sigmas
keep their form. -/
theorem isFinalSigma_append_of_ne {before after before' after' : List CodePoint}
    (hbefore : nearestCase? before' ≠ some true) (hafter : nearestCase? after' ≠ some true) :
    isFinalSigma (before ++ before') (after ++ after') = isFinalSigma before after := by
  have hor : ∀ {x y : Option Bool}, y ≠ some true → (x.or y == some true) = (x == some true) := by
    intro x y hy
    cases x with
    | none => simpa using hy
    | some b => rfl
  rw [isFinalSigma_eq, isFinalSigma_eq, nearestCase?_append, nearestCase?_append, hor hbefore,
    hor hafter]

/-! ### Settled sigmas -/

/-- What stands around a sigma within a text settles its form, whatever stands around the text. -/
def SettlesSigma (before after : List CodePoint) : Prop :=
  nearestCase? before = some false ∨ nearestCase? after = some true ∨
    (nearestCase? before = some true ∧ nearestCase? after = some false)

/-- The form of every sigma of a text is settled. -/
def IsSettled (s : List CodePoint) : Prop :=
  ∀ p q, s = p ++ .char 'Σ' :: q → SettlesSigma p.reverse q

theorem SettlesSigma.isFinalSigma_append {before after : List CodePoint}
    (h : SettlesSigma before after) (before' after' : List CodePoint) :
    isFinalSigma (before ++ before') (after ++ after') = isFinalSigma before after := by
  rw [isFinalSigma_eq, isFinalSigma_eq, nearestCase?_append, nearestCase?_append]
  rcases h with h | h | ⟨h, h'⟩
  · rw [h]
    rfl
  · rw [h]
    simp
  · rw [h, h']
    rfl

/-- A sigma that is not settled is preceded by skipped characters alone, or its form is final and
it is followed by skipped characters alone. -/
theorem cases_of_not_settlesSigma {before after : List CodePoint}
    (h : ¬ SettlesSigma before after) :
    (nearestCase? before = none ∧ nearestCase? after ≠ some true) ∨
      (nearestCase? before = some true ∧ nearestCase? after = none) := by
  unfold SettlesSigma at h
  cases hb : nearestCase? before with
  | none =>
    refine Or.inl ⟨rfl, fun ha => h (Or.inr (Or.inl ha))⟩
  | some b =>
    cases b with
    | false => exact absurd (Or.inl hb) h
    | true =>
      cases ha : nearestCase? after with
      | none => exact Or.inr ⟨rfl, rfl⟩
      | some a =>
        cases a with
        | false => exact absurd (Or.inr (Or.inr ⟨hb, ha⟩)) h
        | true => exact absurd (Or.inr (Or.inl ha)) h

/-- Past a sigma, what is farther off does not matter. -/
theorem nearestCase?_append_sigma (xs ys ys' : List CodePoint) :
    nearestCase? (xs ++ .char 'Σ' :: ys) = nearestCase? (xs ++ .char 'Σ' :: ys') := by
  rw [nearestCase?_append, nearestCase?_append, nearestCase?_sigma, nearestCase?_sigma]

/-! ### A letter beside a text -/

section Lists

variable {α : Type} {a y z : α} {L R : List α}

theorem eq_of_concat_eq_cons (h : L ++ [y] = a :: L) : y = a := by
  induction L generalizing a with
  | nil => exact (List.cons.inj h).1
  | cons c L ih =>
    obtain ⟨rfl, hrest⟩ := List.cons.inj h
    exact ih hrest

/-- With an item in front and another one changed, a list does not hold the list before, if the
item that was changed is not the one put in front. -/
theorem not_infix_cons (hyz : y ≠ z) (hya : y ≠ a) : ¬ L ++ y :: R <:+: a :: (L ++ z :: R) := by
  intro h
  rcases List.infix_cons_iff.mp h with hprefix | hinfix
  · -- at the front, the items before the changed one would all be equal to the one put in front
    have hshort : L ++ [y] <+: a :: (L ++ z :: R) := by
      refine List.IsPrefix.trans ?_ hprefix
      exact ⟨R, by simp⟩
    have hlong : a :: L <+: a :: (L ++ z :: R) := ⟨z :: R, by simp⟩
    have heq := (List.prefix_of_prefix_length_le hshort hlong (by simp)).eq_of_length (by simp)
    exact hya (eq_of_concat_eq_cons heq)
  · have heq := hinfix.eq_of_length (by simp)
    exact hyz (List.cons.inj (List.append_cancel_left heq)).1

theorem not_infix_concat (hyz : y ≠ z) (hza : y ≠ a) : ¬ L ++ y :: R <:+: L ++ z :: R ++ [a] := by
  intro h
  apply not_infix_cons (L := R.reverse) (R := L.reverse) hyz hza
  rw [← List.reverse_infix] at h
  simpa using h

end Lists

theorem nearestCase?_letter : nearestCase? [.char 'a'] = some true := by decide +kernel

theorem lowerAt_letter (before after : List CodePoint) :
    lowerAt before after (.char 'a') = [.char 'a'] := by
  have hletter : lowerChar 'a' = 'a' := by decide +kernel
  simp only [lowerAt]
  rw [if_neg (by decide), if_neg (by decide), hletter]

/-- Behind a letter, a sigma that is preceded by skipped characters alone takes its final form. -/
theorem not_infix_letter_cons {p q : List CodePoint} (hp : nearestCase? p.reverse = none)
    (hq : nearestCase? q ≠ some true) :
    ¬ lowerFrom [] (p ++ .char 'Σ' :: q) <:+:
      lowerFrom [] (.char 'a' :: (p ++ .char 'Σ' :: q)) := by
  -- in front of this sigma there is no other, and those behind it see it and not the letter
  have hfront : lowerIn [.char 'a'] (.char 'Σ' :: q) p = lowerIn [] (.char 'Σ' :: q) p := by
    apply lowerIn_congr
    rintro p' q' rfl
    exact absurd (List.mem_reverse.mpr List.mem_append_cons_self) (not_mem_of_nearestCase? hp)
  have hback : lowerIn (.char 'Σ' :: (p.reverse ++ [.char 'a'])) [] q =
      lowerIn (.char 'Σ' :: p.reverse) [] q := by
    apply lowerIn_congr
    intro p' q' _
    rw [isFinalSigma_eq, isFinalSigma_eq, nearestCase?_append_sigma p'.reverse _ p.reverse]
  have halone : isFinalSigma p.reverse q = false := by
    rw [isFinalSigma_eq, hp]
    rfl
  have hbehind : isFinalSigma (p.reverse ++ [.char 'a']) q = true := by
    rw [isFinalSigma_eq, nearestCase?_append, hp, nearestCase?_letter]
    simpa using hq
  -- so the two forms differ in this sigma alone, beside the letter
  rw [lowerFrom_eq, lowerFrom_eq, lowerIn, lowerAt_letter, lowerIn_sigma, lowerIn_sigma]
  simp only [List.append_nil, halone, hbehind, hfront, hback]
  exact not_infix_cons (by decide) (by decide)

/-- Before a letter, a sigma in its final form that is followed by skipped characters alone loses
this form. -/
theorem not_infix_letter_concat {p q : List CodePoint} (hp : nearestCase? p.reverse = some true)
    (hq : nearestCase? q = none) :
    ¬ lowerFrom [] (p ++ .char 'Σ' :: q) <:+:
      lowerFrom [] (p ++ .char 'Σ' :: q ++ [.char 'a']) := by
  -- the sigmas in front of this one see it and not the letter, and behind it there is no other
  have hfront : lowerIn [] (.char 'Σ' :: q ++ [.char 'a']) p = lowerIn [] (.char 'Σ' :: q) p := by
    apply lowerIn_congr
    intro p' q' _
    rw [isFinalSigma_eq, isFinalSigma_eq, List.cons_append, nearestCase?_append_sigma q' _ q]
  have hback : lowerIn (.char 'Σ' :: p.reverse) [.char 'a'] q =
      lowerIn (.char 'Σ' :: p.reverse) [] q := by
    apply lowerIn_congr
    rintro p' q' rfl
    exact absurd List.mem_append_cons_self (not_mem_of_nearestCase? hq)
  have halone : isFinalSigma p.reverse q = true := by
    rw [isFinalSigma_eq, hp, hq]
    rfl
  have hbefore : isFinalSigma p.reverse (q ++ [.char 'a']) = false := by
    rw [isFinalSigma_eq, nearestCase?_append q, hq, nearestCase?_letter]
    simp
  rw [lowerFrom_eq, lowerFrom_eq, lowerIn_append _ _ _ [.char 'a'], lowerIn_sigma, lowerIn_sigma]
  simp only [List.append_nil, halone, hbefore, hfront, hback, lowerIn, lowerAt_letter]
  exact not_infix_concat (by decide) (by decide)

/-- **Settled texts are those found within every longer one**, in lower case. -/
theorem isSettled_iff {s : List CodePoint} :
    IsSettled s ↔ ∀ t, s <:+: t → lowerFrom [] s <:+: lowerFrom [] t := by
  constructor
  · rintro h _ ⟨before, after, rfl⟩
    apply infix_lowerFrom
    intro p q hpq
    exact (h p q hpq).isFinalSigma_append _ _
  · -- a sigma that is not settled gives the text away beside one letter
    rintro h p q rfl
    refine Classical.byContradiction fun hopen => ?_
    rcases cases_of_not_settlesSigma hopen with ⟨hp, hq⟩ | ⟨hp, hq⟩
    · exact not_infix_letter_cons hp hq (h _ (List.suffix_cons _ _).isInfix)
    · exact not_infix_letter_concat hp hq (h _ (List.prefix_append _ _).isInfix)

end OfferRules

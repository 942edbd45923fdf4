import Mathlib.Data.List.Basic
import OfferRules.Proofs.Traced
import OfferRules.Rule.Eligibility

/-!
# What the eligible rules are

The eligible rules of a list are found rule by rule: a fault on one of them is a fault on the
list, and without one the list is what is left of each rule.  Gates that put no other rule in the
place of the one they admit leave of a rule the rule itself, exactly when its conditions hold and
every gate admits it.

## Main definitions

* `Rule.Fails`, `Rule.left?` — the evaluation of one rule ends in a fault, and what it leaves.
* `Gate.Keeps` — a gate puts no other rule in the place of the one it admits.
* `Rule.isEligible` — the conditions of a rule hold and every gate admits it.

## Main results

* `eligibleRules_of_forall`, `eligibleRules_of_exists` — the eligible rules of a list, and when
  there is a fault in their place.
* `Rule.left?_eq` — what gates that keep rules leave of a rule.
* `says_eligibleRules` — the notices given on the way are those of conditions and gates.
-/

namespace OfferRules

open Traced

variable {gates : List Gate} {now : DateTime} {player : Value}

/-! ### Rule by rule -/

/-- Evaluating a rule for a player ends in a fault. -/
def Rule.Fails (gates : List Gate) (now : DateTime) (player : Value) (r : Rule) : Prop :=
  ∃ f, (r.candidate gates now player).outcome = .error f

instance (r : Rule) : Decidable (r.Fails gates now player) :=
  match h : (r.candidate gates now player).outcome with
  | .ok c => .isFalse fun ⟨f, hf⟩ => by rw [h] at hf; exact nomatch hf
  | .error f => .isTrue ⟨f, h⟩

/-- What is left of a rule for a player, if its evaluation ends without a fault. -/
def Rule.left? (gates : List Gate) (now : DateTime) (player : Value) (r : Rule) : Option Rule :=
  match (r.candidate gates now player).outcome with
  | .ok c => c
  | .error _ => none

theorem Rule.candidate_of_not_fails {r : Rule} (h : ¬ r.Fails gates now player) :
    (r.candidate gates now player).outcome = .ok (r.left? gates now player) := by
  unfold Rule.left?
  cases hc : (r.candidate gates now player).outcome with
  | ok c => rfl
  | error f => exact absurd ⟨f, hc⟩ h

theorem eligibleRules_cons (r : Rule) (rest : List Rule) :
    eligibleRules gates now player (r :: rest)
      = (r.candidate gates now player >>= fun here =>
          eligibleRules gates now player rest >>= fun others =>
            Pure.pure (here.toList ++ others)) := rfl

/-- Where no rule fails, the eligible rules are what is left of each. -/
theorem eligibleRules_of_forall {rs : List Rule} (h : ∀ r ∈ rs, ¬ r.Fails gates now player) :
    (eligibleRules gates now player rs).outcome
      = .ok (rs.filterMap (Rule.left? gates now player)) := by
  induction rs with
  | nil => rfl
  | cons r rest ih =>
    rw [List.forall_mem_cons] at h
    rw [eligibleRules_cons, bind_outcome_eq_ok]
    refine ⟨_, Rule.candidate_of_not_fails h.1, bind_outcome_eq_ok.mpr ⟨_, ih h.2, ?_⟩⟩
    cases hl : r.left? gates now player <;> simp [hl]

/-- Where a rule fails, the fault of a rule stands in place of the eligible rules. -/
theorem eligibleRules_of_exists {rs : List Rule} (h : ∃ r ∈ rs, r.Fails gates now player) :
    ∃ r ∈ rs, ∃ f, (r.candidate gates now player).outcome = .error f ∧
      (eligibleRules gates now player rs).outcome = .error f := by
  induction rs with
  | nil => simp at h
  | cons r rest ih =>
    rw [eligibleRules_cons]
    by_cases hr : r.Fails gates now player
    · obtain ⟨f, hf⟩ := hr
      exact ⟨r, List.mem_cons_self, f, hf, bind_outcome_eq_error.mpr (Or.inl hf)⟩
    · -- the first rule is evaluated without a fault, so the failing one is behind it
      have hrest : ∃ r ∈ rest, r.Fails gates now player := by
        obtain ⟨r', hmem, hf⟩ := h
        rcases List.mem_cons.mp hmem with rfl | hmem
        · exact absurd hf hr
        · exact ⟨r', hmem, hf⟩
      obtain ⟨r', hmem, f, hf, hlist⟩ := ih hrest
      refine ⟨r', List.mem_cons_of_mem r hmem, f, hf, bind_outcome_eq_error.mpr (Or.inr ?_)⟩
      exact ⟨_, Rule.candidate_of_not_fails hr, bind_outcome_eq_error.mpr (Or.inl hlist)⟩

/-! ### Gates that keep rules -/

/-- A gate puts no other rule in the place of the one it admits. -/
def Gate.Keeps (g : Gate) : Prop :=
  ∀ (now : DateTime) (player : Value) (r r' : Rule),
    (g.apply now r player).outcome = .ok (some r') → r' = r

theorem Gate.apply_of_admits {g : Gate} (h : ∀ hook, g ≠ .outside hook) (r : Rule) :
    g.apply now r player
      = (g.admits now r player >>= fun b => Pure.pure (if b then some r else none)) := by
  cases g with
  | outside hook => exact absurd rfl (h hook)
  | window clock => rfl
  | pass => rfl
  | reject ids => rfl
  | buckets count key count_pos digest => rfl

/-- Every gate but those from outside keeps the rules it admits. -/
theorem Gate.keeps_of_ne_outside {g : Gate} (h : ∀ hook, g ≠ .outside hook) : g.Keeps := by
  intro now player r r' hr
  rw [Gate.apply_of_admits h, bind_outcome_eq_ok] at hr
  obtain ⟨b, -, hb⟩ := hr
  cases b with
  | true => simpa using hb.symm
  | false => simp at hb

/-- A gate that keeps rules leaves of a rule the rule itself, exactly when it admits it. -/
theorem Gate.Keeps.apply_eq_some {g : Gate} (hg : g.Keeps) {r r' : Rule} :
    (g.apply now r player).outcome = .ok (some r') ↔
      r' = r ∧ (g.admits now r player).outcome = .ok true := by
  by_cases h : ∀ hook, g ≠ .outside hook
  · rw [Gate.apply_of_admits h, bind_outcome_eq_ok]
    constructor
    · rintro ⟨b, hb, hr⟩
      cases b with
      | true => exact ⟨by simpa using hr.symm, hb⟩
      | false => simp at hr
    · rintro ⟨rfl, hb⟩
      exact ⟨true, hb, rfl⟩
  · -- a hook that keeps rules gives back the rule that it is asked about, or nothing
    obtain ⟨hook, rfl⟩ : ∃ hook, g = .outside hook := by simpa using h
    have hkeep := hg now player r
    simp only [Gate.apply, Gate.admits, ofExcept_outcome] at hkeep ⊢
    cases hh : hook now r player with
    | error f => simp [Except.map]
    | ok c =>
      cases c with
      | none => simp [Except.map]
      | some r'' =>
        have heq : r'' = r := hkeep r'' hh
        simp [Except.map, heq, eq_comm]

theorem Rule.passGates_cons (g : Gate) (rest : List Gate) (r : Rule) :
    Rule.passGates now player (g :: rest) r
      = (g.apply now r player >>= fun c => match c with
          | some next => Rule.passGates now player rest next
          | none => Pure.pure none) := rfl

/-- Gates that do the same for two players, each at a time, make the same of a rule. -/
theorem Rule.passGates_congr {now' : DateTime} {player' : Value}
    (h : ∀ g ∈ gates, ∀ r, g.apply now r player = g.apply now' r player') (r : Rule) :
    Rule.passGates now player gates r = Rule.passGates now' player' gates r := by
  induction gates generalizing r with
  | nil => rfl
  | cons g rest ih =>
    rw [List.forall_mem_cons] at h
    rw [Rule.passGates_cons, Rule.passGates_cons, h.1]
    congr 1
    funext c
    cases c with
    | some next => exact ih h.2 next
    | none => rfl

theorem Rule.passGates_eq_some {r r' : Rule} (hg : ∀ g ∈ gates, g.Keeps) :
    (Rule.passGates now player gates r).outcome = .ok (some r') ↔
      r' = r ∧ ∀ g ∈ gates, (g.admits now r player).outcome = .ok true := by
  induction gates with
  | nil => simp [Rule.passGates, eq_comm]
  | cons g rest ih =>
    rw [List.forall_mem_cons] at hg
    rw [Rule.passGates_cons, bind_outcome_eq_ok, List.forall_mem_cons]
    constructor
    · rintro ⟨c, hc, hrest⟩
      cases c with
      | none => simp at hrest
      | some next =>
        obtain ⟨rfl, hadmit⟩ := (Gate.Keeps.apply_eq_some hg.1).mp hc
        obtain ⟨hr, hothers⟩ := (ih hg.2).mp hrest
        exact ⟨hr, hadmit, hothers⟩
    · rintro ⟨rfl, hadmit, hothers⟩
      exact ⟨some r', (Gate.Keeps.apply_eq_some hg.1).mpr ⟨rfl, hadmit⟩,
        (ih hg.2).mpr ⟨rfl, hothers⟩⟩

/-- Whether the conditions of a rule hold for a player, and every gate admits the rule. -/
def Rule.isEligible (gates : List Gate) (now : DateTime) (player : Value) (r : Rule) : Bool :=
  (r.matchesPlayer player).isTrue && gates.all fun g => (g.admits now r player).isTrue

theorem Rule.isEligible_iff {r : Rule} :
    r.isEligible gates now player = true ↔
      (r.matchesPlayer player).outcome = .ok true ∧
        ∀ g ∈ gates, (g.admits now r player).outcome = .ok true := by
  simp [Rule.isEligible]

theorem Rule.candidate_eq_some {r r' : Rule} (hg : ∀ g ∈ gates, g.Keeps) :
    (r.candidate gates now player).outcome = .ok (some r') ↔
      r' = r ∧ r.isEligible gates now player = true := by
  unfold Rule.candidate
  rw [Rule.isEligible_iff, bind_outcome_eq_ok]
  constructor
  · rintro ⟨b, hb, hr⟩
    cases b with
    | true =>
      obtain ⟨heq, hall⟩ := (Rule.passGates_eq_some hg).mp hr
      exact ⟨heq, hb, hall⟩
    | false => simp at hr
  · rintro ⟨heq, hb, hall⟩
    exact ⟨true, hb, (Rule.passGates_eq_some hg).mpr ⟨heq, hall⟩⟩

/-- What gates that keep rules leave of a rule: the rule, if it is eligible. -/
theorem Rule.left?_eq (hg : ∀ g ∈ gates, g.Keeps) (r : Rule) :
    r.left? gates now player = if r.isEligible gates now player then some r else none := by
  have hsome : (r.candidate gates now player).outcome = .ok (some r) ↔
      r.isEligible gates now player = true := by
    rw [Rule.candidate_eq_some hg]
    simp
  unfold Rule.left?
  split
  · next c hc =>
    cases c with
    | some r' =>
      obtain ⟨rfl, he⟩ := (Rule.candidate_eq_some hg).mp hc
      rw [if_pos he]
    | none => rw [if_neg fun he => by rw [hsome.mpr he] at hc; simp at hc]
  · next f hf => rw [if_neg fun he => by rw [hsome.mpr he] at hf; simp at hf]

/-- What gates that keep rules leave of a list of rules: its eligible rules. -/
theorem filterMap_left? (hg : ∀ g ∈ gates, g.Keeps) (rs : List Rule) :
    rs.filterMap (Rule.left? gates now player) = rs.filter (Rule.isEligible gates now player) := by
  rw [← List.filterMap_eq_filter]
  refine List.filterMap_congr ?_
  intro r _
  rw [Rule.left?_eq hg]
  simp [Option.guard]

/-! ### Notices -/

/-- Whether a notice is one of a condition or of a gate. -/
def Notice.ofRule : Notice → Bool
  | .unknownOperator _ _ | .invalidPattern _ _ _ | .outsideBuckets _ _ => true
  | _ => false

theorem Condition.says_evaluate (c : Condition) (player : Value) :
    Says (fun n => n.ofRule) (c.evaluate player) := by
  unfold Condition.evaluate
  split
  · exact says_ofExcept _
  · exact says_pure false
  · next actual _ =>
    split
    · exact says_pure false
    · unfold Condition.judge
      split
      · exact says_bind (says_tell rfl) fun _ => says_pure false
      · split
        · exact says_pure _
        · exact says_bind (says_tell rfl) fun _ => says_pure false
        · exact says_ofExcept _

theorem Rule.says_matchesPlayer (r : Rule) (player : Value) :
    Says (fun n => n.ofRule) (r.matchesPlayer player) := by
  unfold Rule.matchesPlayer
  split
  · exact says_pure true
  · split
    · exact says_allHold (fun c => c.says_evaluate player) _
    · exact says_anyHolds (fun c => c.says_evaluate player) _
    · exact says_pure false

theorem Gate.says_admits (g : Gate) (r : Rule) :
    Says (fun n => n.ofRule) (g.admits now r player) := by
  cases g with
  | window clock => exact says_pure _
  | pass => exact says_pure true
  | reject ids => exact says_pure _
  | outside hook => exact says_ofExcept _
  | buckets count key count_pos digest =>
    unfold Gate.admits
    simp only
    split
    · exact says_pure true
    · refine says_bind (says_ofExcept _) fun bucket => ?_
      split
      · exact says_pure true
      · exact says_bind (says_tell rfl) fun _ => says_pure false

theorem Gate.says_apply (g : Gate) (r : Rule) :
    Says (fun n => n.ofRule) (g.apply now r player) := by
  by_cases h : ∀ hook, g ≠ .outside hook
  · rw [Gate.apply_of_admits h]
    exact says_bind (g.says_admits r) fun _ => says_pure _
  · obtain ⟨hook, rfl⟩ : ∃ hook, g = .outside hook := by simpa using h
    exact says_ofExcept _

theorem Rule.says_passGates (gates : List Gate) (r : Rule) :
    Says (fun n => n.ofRule) (Rule.passGates now player gates r) := by
  induction gates generalizing r with
  | nil => exact says_pure _
  | cons g rest ih =>
    rw [Rule.passGates_cons]
    refine says_bind (g.says_apply r) fun c => ?_
    cases c with
    | some next => exact ih next
    | none => exact says_pure none

theorem Rule.says_candidate (r : Rule) :
    Says (fun n => n.ofRule) (r.candidate gates now player) := by
  refine says_bind (r.says_matchesPlayer player) fun b => ?_
  cases b with
  | true => exact Rule.says_passGates gates r
  | false => exact says_pure none

/-- The notices given on the way to the eligible rules are those of conditions and gates. -/
theorem says_eligibleRules (rs : List Rule) :
    Says (fun n => n.ofRule) (eligibleRules gates now player rs) := by
  induction rs with
  | nil => exact says_pure []
  | cons r rest ih =>
    rw [eligibleRules_cons]
    exact says_bind r.says_candidate fun _ => says_bind ih fun _ => says_pure _

end OfferRules

import Mathlib.Data.List.Basic
import OfferRules.Proofs.ConditionAnswers

/-!
# The notices of a rule

The conditions of a rule are consulted in order until one decides, and each that is consulted may
leave a notice: that its operator does not exist, or that its pattern cannot be read.  A condition
that leaves a notice does not hold.

## Main definitions

* `upToFirst`, `IsUpToFirst` — the items of a list up to and including the first one at which
  something stops.
* `Condition.Warns` — the notice that a condition leaves.
* `Rule.combine` — the conditions of a rule combined, in whatever way each of them is evaluated.
* `Rule.consulted` — the conditions of a rule that are consulted.

## Main results

* `Traced.allHold_trace`, `Traced.anyHolds_trace` — tests that are evaluated until one decides.
* `Condition.evaluate_of_warns` — a condition that leaves a notice does not hold.
* `Rule.matchesPlayer_trace` — **the notices of a rule are those of the conditions consulted.**
-/

namespace OfferRules

open Traced

/-! ### Up to the first item -/

section UpToFirst

variable {α : Type}

/-- The items of a list up to and including the first one at which something stops. -/
def upToFirst (stop : α → Bool) : List α → List α
  | [] => []
  | a :: rest => a :: if stop a then [] else upToFirst stop rest

/-- A list is all of another one, of which no item is of some kind, or it is all before the first
item of that kind, and that item. -/
def IsUpToFirst (stop : α → Prop) (as front : List α) : Prop :=
  (front = as ∧ ∀ a ∈ as, ¬ stop a) ∨
    ∃ before a after, as = before ++ a :: after ∧ front = before ++ [a] ∧
      (∀ b ∈ before, ¬ stop b) ∧ stop a

theorem isUpToFirst_upToFirst (stop : α → Bool) (as : List α) :
    IsUpToFirst (stop · = true) as (upToFirst stop as) := by
  induction as with
  | nil => exact Or.inl ⟨rfl, nofun⟩
  | cons a rest ih =>
    cases ha : stop a with
    | true => exact Or.inr ⟨[], a, rest, rfl, by simp [upToFirst, ha], nofun, ha⟩
    | false =>
      have hstep : upToFirst stop (a :: rest) = a :: upToFirst stop rest := by
        simp [upToFirst, ha]
      have hnot : ¬ stop a = true := by simp [ha]
      rcases ih with ⟨hall, hnone⟩ | ⟨before, b, after, rfl, hfirst, hbefore, hb⟩
      · exact Or.inl ⟨by rw [hstep, hall], List.forall_mem_cons.mpr ⟨hnot, hnone⟩⟩
      · refine Or.inr ⟨a :: before, b, after, rfl, ?_, List.forall_mem_cons.mpr ⟨hnot, hbefore⟩, hb⟩
        rw [hstep, hfirst, List.cons_append]

/-- Only the kind of the items that are taken matters. -/
theorem IsUpToFirst.congr {stop stop' : α → Prop} {as front : List α}
    (h : IsUpToFirst stop as front) (hsame : ∀ a ∈ front, stop a ↔ stop' a) :
    IsUpToFirst stop' as front := by
  rcases h with ⟨rfl, hnone⟩ | ⟨before, a, after, rfl, rfl, hbefore, ha⟩
  · exact Or.inl ⟨rfl, fun a ha => (not_congr (hsame a ha)).mp (hnone a ha)⟩
  · refine Or.inr ⟨before, a, after, rfl, rfl, fun b hb => ?_, ?_⟩
    · exact (not_congr (hsame b (List.mem_append_left _ hb))).mp (hbefore b hb)
    · exact (hsame a (List.mem_append_right _ List.mem_cons_self)).mp ha

end UpToFirst

namespace Traced

variable {α : Type}

/-- All must hold: the notices are those of the tests up to the first that does not. -/
theorem allHold_trace {test : α → Traced Bool} {as : List α}
    (hok : ∀ a ∈ upToFirst (fun a => !(test a).isTrue) as, ∃ b, (test a).outcome = .ok b) :
    allHold test as
      = ⟨(upToFirst (fun a => !(test a).isTrue) as).flatMap fun a => (test a).notices,
          .ok (as.all fun a => (test a).isTrue)⟩ := by
  induction as with
  | nil => rfl
  | cons a rest ih =>
    rw [upToFirst, List.forall_mem_cons] at hok
    obtain ⟨⟨b, h⟩, hrest⟩ := hok
    have hb : (test a).isTrue = b := by simp [isTrue, h]
    rw [allHold_cons, upToFirst, List.flatMap_cons, bind_ok h, List.all_cons, hb]
    rw [hb] at hrest
    cases b with
    | true =>
      rw [if_pos rfl, ih hrest]
      simp
    | false => simp

/-- One must hold: the notices are those of the tests up to the first that does. -/
theorem anyHolds_trace {test : α → Traced Bool} {as : List α}
    (hok : ∀ a ∈ upToFirst (fun a => (test a).isTrue) as, ∃ b, (test a).outcome = .ok b) :
    anyHolds test as
      = ⟨(upToFirst (fun a => (test a).isTrue) as).flatMap fun a => (test a).notices,
          .ok (as.any fun a => (test a).isTrue)⟩ := by
  induction as with
  | nil => rfl
  | cons a rest ih =>
    rw [upToFirst, List.forall_mem_cons] at hok
    obtain ⟨⟨b, h⟩, hrest⟩ := hok
    have hb : (test a).isTrue = b := by simp [isTrue, h]
    rw [anyHolds_cons, upToFirst, List.flatMap_cons, bind_ok h, List.any_cons, hb]
    rw [hb] at hrest
    cases b with
    | true => simp
    | false =>
      rw [if_neg Bool.false_ne_true, ih hrest]
      simp

end Traced

/-! ### The notice of a condition -/

namespace Operator

theorem named?_eq_some {s : Text} {o : Operator} : named? s = some o ↔ o.name = s := by
  constructor
  · intro h
    simpa using List.find?_some h
  · rintro rfl
    exact o.named?_name

theorem readPattern_eq_badPattern {t text problem : Text} :
    readPattern t = .error (.badPattern text problem) ↔ t = text ∧ ∃ p position,
      Pattern.parse text.points = .error (.problem p position) ∧
        Pattern.report text.points p position = problem := by
  unfold readPattern
  constructor
  · intro h
    split at h
    · cases h
    · next p position hparse =>
      cases h
      exact ⟨rfl, p, position, hparse, rfl⟩
    · cases h
  · rintro ⟨rfl, p, position, hparse, rfl⟩
    rw [hparse]

/-- The problem of a pattern comes from reading the text of the literal. -/
theorem matchesPattern_eq_badPattern {a v : Value} {text problem : Text} :
    matchesPattern a v = .error (.badPattern text problem) ↔
      v.toText = .ok text ∧ readPattern text = .error (.badPattern text problem) := by
  constructor
  · intro h
    unfold matchesPattern at h
    split at h
    · cases h
    · next t htext =>
      split at h
      · next hread =>
        cases h
        obtain rfl := (readPattern_eq_badPattern.mp hread).1
        exact ⟨htext, hread⟩
      · split at h <;> cases h
  · rintro ⟨htext, hread⟩
    simp only [matchesPattern, htext, hread]

/-- Only patterns give problems of patterns. -/
theorem compare_eq_badPattern {o : Operator} {a v : Value} {text problem : Text} :
    o.compare a v = .error (.badPattern text problem) ↔
      o = .pattern ∧ v.toText = .ok text ∧
        readPattern text = .error (.badPattern text problem) := by
  have horder : ∀ holds, compareNumbers holds a v ≠ .error (.badPattern text problem) := by
    intro holds
    unfold compareNumbers
    split <;> simp
  cases o with
  | eq | neq | member | nonmember => simp [compare]
  | gt | gte | lt | lte => simpa [compare] using horder _
  | contains => cases h : a.contains v <;> simp [compare, h, Except.mapError]
  | pattern => simpa [compare] using matchesPattern_eq_badPattern

end Operator

namespace Condition

variable {c : Condition} {player a : Value}

/-- The notice that a condition leaves where its path leads to a value that is not null: its
operator does not exist, or the text of its literal is no pattern. -/
inductive Warns (c : Condition) (player : Value) : Notice → Prop where
  /-- The operator does not exist. -/
  | unknownOperator {a : Value} (found : c.Found player a)
      (unknown : ∀ o : Operator, o.name ≠ c.operator) :
      Warns c player (.unknownOperator c.operator c.field)
  /-- The pattern cannot be read. -/
  | invalidPattern {a : Value} {text : Text} {p : Pattern.Problem} {position : Option Nat}
      (found : c.Found player a) (operator : c.operator = "regex")
      (literal : c.value.toText = .ok text)
      (unreadable : Pattern.parse text.points = .error (.problem p position)) :
      Warns c player (.invalidPattern c.field text (Pattern.report text.points p position))

/-- A condition that leaves a notice does not hold, and leaves no other notice. -/
theorem evaluate_of_warns {n : Notice} (h : c.Warns player n) :
    c.evaluate player = ⟨[n], .ok false⟩ := by
  cases h with
  | unknownOperator found unknown =>
    have hnone : Operator.named? c.operator = none := by
      cases hop : Operator.named? c.operator with
      | none => rfl
      | some o => exact absurd (Operator.named?_eq_some.mp hop) (unknown o)
    rw [evaluate_of_found found, judge_of_unknown hnone]
  | @invalidPattern a text p position found operator literal unreadable =>
    have hread : Operator.readPattern text
        = .error (.badPattern text (Pattern.report text.points p position)) :=
      Operator.readPattern_eq_badPattern.mpr ⟨rfl, p, position, unreadable, rfl⟩
    have hcompare : Operator.compare a c.value .pattern
        = .error (.badPattern text (Pattern.report text.points p position)) :=
      Operator.compare_eq_badPattern.mpr ⟨rfl, literal, hread⟩
    have hnamed : Operator.named? c.operator = some .pattern :=
      Operator.named?_eq_some.mpr operator.symm
    rw [evaluate_of_found found, judge_of_badPattern hnamed hcompare]

/-- A condition leaves a notice, or none. -/
theorem warns_or_notices_eq_nil (c : Condition) (player : Value) :
    (∃ n, c.Warns player n) ∨ (c.evaluate player).notices = [] := by
  obtain ⟨f, hf⟩ | habsent | ⟨a, ha⟩ := cases_of_resolve c player
  · exact Or.inr (by rw [evaluate_of_error hf, ofExcept_notices])
  · exact Or.inr (by rw [evaluate_of_absent habsent, pure_notices])
  · rw [evaluate_of_found ha]
    cases hop : Operator.named? c.operator with
    | none =>
      refine Or.inl ⟨_, .unknownOperator ha fun o ho => ?_⟩
      rw [Operator.named?_eq_some.mpr ho] at hop
      cases hop
    | some o =>
      cases hcompare : o.compare a c.value with
      | ok b => exact Or.inr (by rw [judge_of_ok hop hcompare, pure_notices])
      | error e =>
        cases e with
        | fault f => exact Or.inr (by rw [judge_of_fault hop hcompare, ofExcept_notices])
        | badPattern text problem =>
          obtain ⟨rfl, literal, hread⟩ := Operator.compare_eq_badPattern.mp hcompare
          obtain ⟨-, p, position, unreadable, rfl⟩ := Operator.readPattern_eq_badPattern.mp hread
          have operator : c.operator = "regex" := (Operator.named?_eq_some.mp hop).symm
          exact Or.inl ⟨_, .invalidPattern ha operator literal unreadable⟩

/-- The notices of a condition are the one that it leaves, if any. -/
theorem notices_eq_toList (c : Condition) (player : Value) :
    (c.evaluate player).notices = (c.evaluate player).notices.head?.toList ∧
      ∀ n, (c.evaluate player).notices.head? = some n ↔ c.Warns player n := by
  have hwarns : ∀ n, c.Warns player n → (c.evaluate player).notices = [n] :=
    fun n h => by rw [evaluate_of_warns h]
  rcases warns_or_notices_eq_nil c player with ⟨n, hn⟩ | hnil
  · rw [hwarns n hn]
    refine ⟨rfl, fun m => ⟨?_, fun hm => ?_⟩⟩
    · rintro ⟨⟩
      exact hn
    · rw [← hwarns n hn, hwarns m hm]
      rfl
  · rw [hnil]
    refine ⟨rfl, fun m => ⟨nofun, fun hm => ?_⟩⟩
    rw [hwarns m hm] at hnil
    cases hnil

end Condition

/-! ### The notices of a rule -/

namespace Rule

variable {r : Rule} {player : Value}

/-- The conditions of a rule combined, in whatever way each of them is evaluated. -/
def combine (judge : Condition → Traced Bool) (r : Rule) : Traced Bool :=
  if r.conditions.isEmpty then return true
  else match Logic.named? r.logic with
    | some .all => allHold judge r.conditions
    | some .any => anyHolds judge r.conditions
    | none => return false

theorem combine_evaluate (r : Rule) (player : Value) :
    r.combine (·.evaluate player) = r.matchesPlayer player := rfl

/-- The conditions of a rule that are consulted: where all must hold, those up to the first that
does not; where one must hold, those up to the first that does; none, where the logic does not
exist. -/
def consulted (r : Rule) (player : Value) : List Condition :=
  match Logic.named? r.logic with
  | some .all => upToFirst (fun c => !(c.evaluate player).isTrue) r.conditions
  | some .any => upToFirst (fun c => (c.evaluate player).isTrue) r.conditions
  | none => []

theorem consulted_eq_nil (h : r.conditions = [] ∨ (r.logic ≠ "AND" ∧ r.logic ≠ "OR")) :
    r.consulted player = [] := by
  rcases h with hnil | ⟨hand, hor⟩
  · unfold consulted
    rw [hnil]
    cases Logic.named? r.logic with
    | none => rfl
    | some l => cases l <;> rfl
  · simp [consulted, Logic.named?, hand, hor]

/-- Where all must hold, the conditions up to the first that does not; none of them ends in a
fault. -/
theorem isUpToFirst_consulted_and (hand : r.logic = "AND")
    (hok : ∀ c ∈ r.consulted player, ∃ b, (c.evaluate player).outcome = .ok b) :
    IsUpToFirst (fun c => (c.evaluate player).outcome = .ok false) r.conditions
      (r.consulted player) := by
  have hconsulted : r.consulted player
      = upToFirst (fun c => !(c.evaluate player).isTrue) r.conditions := by
    simp [consulted, Logic.named?, hand]
  rw [hconsulted] at hok ⊢
  apply (isUpToFirst_upToFirst _ _).congr
  intro c hc
  obtain ⟨b, hb⟩ := hok c hc
  cases b <;> simp [Traced.isTrue, hb]

/-- Where one must hold, the conditions up to the first that does. -/
theorem isUpToFirst_consulted_or (hor : r.logic = "OR") :
    IsUpToFirst (fun c => (c.evaluate player).outcome = .ok true) r.conditions
      (r.consulted player) := by
  have hconsulted : r.consulted player
      = upToFirst (fun c => (c.evaluate player).isTrue) r.conditions := by
    simp [consulted, Logic.named?, hor]
  rw [hconsulted]
  apply (isUpToFirst_upToFirst _ _).congr
  intro c _
  exact isTrue_iff

/-- Evaluations that answer as the conditions do, whatever their notices, are made of the conditions
consulted and of no others. -/
theorem combine_notices {judge : Condition → Traced Bool}
    (hsame : ∀ c, (judge c).outcome = (c.evaluate player).outcome)
    (hok : ∀ c ∈ r.consulted player, ∃ b, (c.evaluate player).outcome = .ok b) :
    (r.combine judge).notices = (r.consulted player).flatMap (fun c => (judge c).notices) ∧
      ∃ b, (r.combine judge).outcome = .ok b := by
  have htrue : ∀ c : Condition, (c.evaluate player).isTrue = (judge c).isTrue := by
    intro c
    rw [Traced.isTrue, Traced.isTrue, hsame]
  have hok' : ∀ c ∈ r.consulted player, ∃ b, (judge c).outcome = .ok b := by
    intro c hc
    rw [hsame]
    exact hok c hc
  unfold combine
  unfold consulted at hok' ⊢
  simp only [htrue] at hok' ⊢
  cases hconditions : r.conditions with
  | nil => cases Logic.named? r.logic with
    | none => exact ⟨rfl, _, rfl⟩
    | some l => cases l <;> exact ⟨rfl, _, rfl⟩
  | cons c rest =>
    rw [hconditions] at hok'
    rw [if_neg (by simp)]
    cases hlogic : Logic.named? r.logic with
    | none => exact ⟨rfl, _, rfl⟩
    | some l =>
      rw [hlogic] at hok'
      cases l with
      | all =>
        have h := allHold_trace hok'
        exact ⟨congrArg notices h, _, congrArg outcome h⟩
      | any =>
        have h := anyHolds_trace hok'
        exact ⟨congrArg notices h, _, congrArg outcome h⟩

/-- An evaluation that marks each condition leaves the marks of the conditions consulted, each
before the notices of its condition. -/
theorem combine_marked (mark : Condition → Notice)
    (hok : ∀ c ∈ r.consulted player, ∃ b, (c.evaluate player).outcome = .ok b) :
    (r.combine fun c => do tell (mark c); c.evaluate player).notices
      = (r.consulted player).flatMap fun c => mark c :: (c.evaluate player).notices := by
  have hmark : ∀ c : Condition, (do tell (mark c); c.evaluate player : Traced Bool)
      = ⟨mark c :: (c.evaluate player).notices, (c.evaluate player).outcome⟩ := by
    intro c
    exact bind_ok rfl _
  have hsame : ∀ c : Condition, (do tell (mark c); c.evaluate player : Traced Bool).outcome
      = (c.evaluate player).outcome := by
    intro c
    rw [hmark]
  rw [(combine_notices hsame hok).1]
  simp only [hmark]

/-- **The notices of a rule are those of the conditions consulted.**  Where none of these ends in a
fault, they are the conditions up to and including the first that does not hold, if all must hold,
or the first that holds, if one must; an evaluation that marks each condition leaves their marks, in
order, and no others.  A condition leaves a notice where its path leads to a value that is not null
and its operator does not exist, or its pattern cannot be read; then it does not hold. -/
theorem matchesPlayer_trace (r : Rule) (player : Value)
    (hok : ∀ c ∈ r.consulted player, ∃ b, (c.evaluate player).outcome = .ok b) :
    (r.conditions = [] ∨ (r.logic ≠ "AND" ∧ r.logic ≠ "OR") → r.consulted player = []) ∧
      (r.logic = "AND" → IsUpToFirst (fun c => (c.evaluate player).outcome = .ok false)
        r.conditions (r.consulted player)) ∧
      (r.logic = "OR" → IsUpToFirst (fun c => (c.evaluate player).outcome = .ok true)
        r.conditions (r.consulted player)) ∧
      ∃ warning : Condition → Option Notice,
        (∀ c n, warning c = some n ↔ c.Warns player n) ∧
        (r.matchesPlayer player).notices = (r.consulted player).filterMap warning ∧
        (∀ mark : Condition → Notice,
          (r.combine fun c => do tell (mark c); c.evaluate player).notices
            = (r.consulted player).flatMap fun c => mark c :: (warning c).toList) ∧
        ∀ c ∈ r.consulted player, warning c ≠ none → (c.evaluate player).outcome = .ok false := by
  refine ⟨consulted_eq_nil, fun hand => isUpToFirst_consulted_and hand hok,
    isUpToFirst_consulted_or, fun c => (c.evaluate player).notices.head?, ?_, ?_, ?_, ?_⟩
  · exact fun c => (c.notices_eq_toList player).2
  · rw [← combine_evaluate, (combine_notices (fun _ => rfl) hok).1,
      List.filterMap_eq_flatMap_toList]
    exact congrArg (List.flatMap · _) (funext fun c => (c.notices_eq_toList player).1)
  · intro mark
    rw [combine_marked mark hok]
    refine congrArg (List.flatMap · _) (funext fun c => ?_)
    exact congrArg (mark c :: ·) (c.notices_eq_toList player).1
  · intro c _ hne
    obtain ⟨n, hn⟩ := Option.ne_none_iff_exists'.mp hne
    rw [Condition.evaluate_of_warns (((c.notices_eq_toList player).2 n).mp hn)]

/-- The level must match a pattern that cannot be read, be above one, or compare as no operator
does. -/
def demanding : Rule :=
  { id := "r", logic := "OR"
    conditions := [⟨"level", "regex", .text "("⟩, ⟨"level", "gt", .int 1⟩,
      ⟨"level", "above", .int 1⟩] }

/-- The first condition leaves a notice and the second holds, so that the third is not consulted. -/
theorem matchesPlayer_trace_demanding :
    (demanding.consulted (.record [("level", .int 5)])).map (·.operator) = ["regex", "gt"] ∧
      (∀ c ∈ demanding.consulted (.record [("level", .int 5)]),
        ∃ b, (c.evaluate (.record [("level", .int 5)])).outcome = .ok b) ∧
      ∃ warning : Condition → Option Notice,
        (∀ c n, warning c = some n ↔ c.Warns (.record [("level", .int 5)]) n) ∧
        (demanding.matchesPlayer (.record [("level", .int 5)])).notices
          = (demanding.consulted (.record [("level", .int 5)])).filterMap warning := by
  have hconsulted : demanding.consulted (.record [("level", .int 5)])
      = [⟨"level", "regex", .text "("⟩, ⟨"level", "gt", .int 1⟩] := by
    have hfirst : (Condition.evaluate ⟨"level", "regex", .text "("⟩
        (.record [("level", .int 5)])).isTrue = false := by decide +kernel
    have hsecond : (Condition.evaluate ⟨"level", "gt", .int 1⟩
        (.record [("level", .int 5)])).isTrue = true := by decide +kernel
    simp [demanding, consulted, Logic.named?, upToFirst, hfirst, hsecond]
  have hok : ∀ c ∈ demanding.consulted (.record [("level", .int 5)]),
      ∃ b, (c.evaluate (.record [("level", .int 5)])).outcome = .ok b := by
    intro c hc
    rw [hconsulted, List.mem_pair] at hc
    rcases hc with rfl | rfl
    · exact ⟨false, by decide +kernel⟩
    · exact ⟨true, by decide +kernel⟩
  obtain ⟨-, -, -, warning, hwarning, htrace, -, -⟩ := matchesPlayer_trace demanding _ hok
  exact ⟨by rw [hconsulted]; rfl, hok, warning, hwarning, htrace⟩

end Rule
end OfferRules

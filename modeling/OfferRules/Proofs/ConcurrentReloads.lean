import Mathlib.Data.List.Induction
import Mathlib.Logic.Function.Basic
import OfferRules.Proofs.Selection

/-!
# Reloads at the same time

A reload counts the rules in force, loads, counts them again and looks up the time of the last load.
Only the loads exclude each other, so the steps of several reloads may come in any order, and
between the load of one and its second count others may load.  What the report gives as the current
number of rules is that of the last load before the count, whichever call this was a step of.

## Main definitions

* `ReloadCall` — a call for a reload: what the source gives to it, and when.
* `ReloadPhase`, `ReloadPhase.next` — how far a call has come, and its next step.
* `Reloads`, `Reloads.step`, `Reloads.run` — a store on which calls take their steps in turn.
* `Reloads.LoadsLast` — the call whose load is the last one in a schedule.
* `ReloadReport.GivesCurrent` — the current number of rules that a report gives.

## Main results

* `Reloads.run_alone` — a call whose steps come in a row is a reload.
* `Reloads.run_rules` — the rules in force are those of the call that loads last.
* `Reloads.report_eq` — the whole report of a call, in any schedule.
* `Reloads.givesCurrent_iff` — **a report gives the number of rules of the call that loads last
  before the count.**
-/

namespace OfferRules

/-! ### Calls -/

/-- A call for a reload. -/
structure ReloadCall where
  /-- The source, as it is when this call loads. -/
  source : RuleSource
  /-- When it loads. -/
  now : DateTime

namespace ReloadCall

/-- Whether the load of a call succeeds. -/
def succeeds (c : ReloadCall) : Bool := c.source.rules.toOption.isSome

/-- The rules that a call puts in force, none if its load fails. -/
def rules (c : ReloadCall) : List Rule := c.source.rules.toOption.getD []

/-- The load of a call. -/
def load (c : ReloadCall) (store : RuleStore) : Loaded :=
  { store with source := c.source }.load c.now

theorem load_rules (c : ReloadCall) (store : RuleStore) : (c.load store).store.rules = c.rules := by
  unfold load rules RuleStore.load
  dsimp only
  cases c.source.rules <;> rfl

theorem load_success (c : ReloadCall) (store : RuleStore) :
    (c.load store).success = c.succeeds := by
  unfold load succeeds RuleStore.load
  dsimp only
  cases c.source.rules <;> rfl

end ReloadCall

/-- How far a call has come. -/
inductive ReloadPhase where
  /-- It has not begun. -/
  | idle
  /-- It has counted the rules in force. -/
  | begun (previous : Nat)
  /-- It has loaded. -/
  | loaded (previous : Nat) (success : Bool)
  /-- It has counted the rules again. -/
  | counted (previous : Nat) (success : Bool) (current : Nat)
  /-- It has given its report. -/
  | done (report : ReloadReport)

namespace ReloadPhase

/-- The next step of a call: the store after it, and how far the call has come. -/
def next (c : ReloadCall) (store : RuleStore) : ReloadPhase → RuleStore × ReloadPhase
  | idle => (store, begun store.rules.length)
  | begun previous => ((c.load store).store, loaded previous (c.load store).success)
  | loaded previous success => (store, counted previous success store.rules.length)
  | counted previous success current =>
    (store, done (.make success previous current store.activity.lastLoad))
  | done report => (store, done report)

/-- The report of a call that has given it. -/
def report? : ReloadPhase → Option ReloadReport
  | done report => some report
  | _ => none

/-- How many steps a call has taken. -/
def age : ReloadPhase → Nat
  | idle => 0
  | begun _ => 1
  | loaded _ _ => 2
  | counted _ _ _ => 3
  | done _ => 4

variable {c : ReloadCall} {store : RuleStore}

theorem age_next (p : ReloadPhase) : (p.next c store).2.age = min 4 (p.age + 1) := by
  cases p <;> rfl

/-- The second step of a call is the only one that changes the rules in force. -/
theorem rules_next (p : ReloadPhase) :
    (p.next c store).1.rules = if p.age = 1 then c.rules else store.rules := by
  cases p with
  | begun previous => exact c.load_rules store
  | _ => rfl

theorem age_of_report? {p : ReloadPhase} {r : ReloadReport} (h : p.report? = some r) :
    p.age = 4 := by
  cases p with
  | done report => rfl
  | _ => exact nomatch h

end ReloadPhase

/-! ### Reports -/

namespace ReloadReport

/-- The current number of rules that a report gives, at the end of its wording. -/
def GivesCurrent (r : ReloadReport) (n : Nat) : Prop :=
  ∃ front, r.message = front ++ ", Current: " ++ toString n

/-- The digits at the end of a wording are those of the number. -/
theorem digits_of_wording (front : String) (n : Nat) :
    (front ++ ", Current: " ++ toString n).toList.reverse.takeWhile Char.isDigit
      = (Nat.toDigits 10 n).reverse := by
  have hdigits : ∀ c ∈ (Nat.toDigits 10 n).reverse, c.isDigit = true := fun c hc =>
    Nat.isDigit_of_mem_toDigits (by decide) (by decide) (List.mem_reverse.mp hc)
  have htext : (toString n).toList = Nat.toDigits 10 n := Nat.toList_repr
  rw [String.toList_append, String.toList_append, htext, List.reverse_append, List.reverse_append,
    List.takeWhile_append_of_pos hdigits]
  exact List.append_nil _

theorem GivesCurrent.unique {r : ReloadReport} {m n : Nat} (hm : r.GivesCurrent m)
    (hn : r.GivesCurrent n) : m = n := by
  obtain ⟨front, hm⟩ := hm
  obtain ⟨front', hn⟩ := hn
  have hdigits : Nat.toDigits 10 m = Nat.toDigits 10 n := by
    rw [← List.reverse_inj, ← digits_of_wording front m, ← digits_of_wording front' n, ← hm, ← hn]
  rw [← @Nat.ofDigitChars_toDigits 10 m (by decide) (by decide), hdigits,
    Nat.ofDigitChars_toDigits (by decide) (by decide)]

theorem givesCurrent_make {success : Bool} {previous current n : Nat} {stamp : Option DateTime} :
    (make success previous current stamp).GivesCurrent n ↔ n = current := by
  have hgives : (make success previous current stamp).GivesCurrent current := ⟨_, rfl⟩
  exact ⟨fun h => h.unique hgives, fun h => h ▸ hgives⟩

end ReloadReport

/-! ### Schedules -/

/-- A store, and how far each of several calls has come. -/
structure Reloads (ι : Type) where
  /-- The store. -/
  store : RuleStore
  /-- How far each call has come. -/
  phase : ι → ReloadPhase

namespace Reloads

variable {ι : Type}

/-- A store before any call has begun. -/
def start (store : RuleStore) : Reloads ι := { store, phase := fun _ => .idle }

variable [DecidableEq ι]

/-- A call takes its next step. -/
def step (calls : ι → ReloadCall) (s : Reloads ι) (i : ι) : Reloads ι :=
  let after := (s.phase i).next (calls i) s.store
  { store := after.1, phase := Function.update s.phase i after.2 }

/-- Calls take their next steps in turn. -/
def run (calls : ι → ReloadCall) (s : Reloads ι) (steps : List ι) : Reloads ι :=
  steps.foldl (step calls) s

variable {calls : ι → ReloadCall} {s : Reloads ι} {store : RuleStore} {i j k : ι}
  {steps before rest : List ι} {r : ReloadReport}

theorem run_append (calls : ι → ReloadCall) (s : Reloads ι) (steps rest : List ι) :
    run calls s (steps ++ rest) = run calls (run calls s steps) rest :=
  List.foldl_append

theorem run_snoc (calls : ι → ReloadCall) (s : Reloads ι) (steps : List ι) (i : ι) :
    run calls s (steps ++ [i]) = step calls (run calls s steps) i :=
  run_append calls s steps [i]

theorem step_phase_self (calls : ι → ReloadCall) (s : Reloads ι) (i : ι) :
    (step calls s i).phase i = ((s.phase i).next (calls i) s.store).2 :=
  Function.update_self ..

theorem step_phase_of_ne (h : k ≠ i) : (step calls s i).phase k = s.phase k :=
  Function.update_of_ne h ..

/-- A call has come no further while others take their steps. -/
theorem run_phase_of_not_mem (h : i ∉ steps) : (run calls s steps).phase i = s.phase i := by
  induction steps using List.reverseRecOn with
  | nil => rfl
  | append_singleton steps k ih =>
    rw [List.mem_append, List.mem_singleton, not_or] at h
    rw [run_snoc, step_phase_of_ne h.2, ih h.1]

/-- A call takes a step after others have taken theirs. -/
theorem run_phase_snoc (h : i ∉ steps) :
    (run calls s (steps ++ [i])).phase i
      = ((s.phase i).next (calls i) (run calls s steps).store).2 := by
  rw [run_snoc, step_phase_self, run_phase_of_not_mem h]

/-- A report that is given stays as it is. -/
theorem run_phase_of_done (h : s.phase i = .done r) : (run calls s steps).phase i = .done r := by
  induction steps using List.reverseRecOn with
  | nil => exact h
  | append_singleton steps k ih =>
    rw [run_snoc]
    by_cases hk : i = k
    · obtain rfl := hk
      rw [step_phase_self, ih]
      rfl
    · rw [step_phase_of_ne hk, ih]

/-- How far a call has come tells how many steps it has taken, up to four. -/
theorem run_age (steps : List ι) (i : ι) :
    ((run calls (start store) steps).phase i).age = min 4 (steps.count i) := by
  induction steps using List.reverseRecOn with
  | nil => rfl
  | append_singleton steps k ih =>
    rw [run_snoc, List.count_append, List.count_singleton]
    by_cases hk : k = i
    · obtain rfl := hk
      rw [step_phase_self, ReloadPhase.age_next, ih, beq_self_eq_true, if_pos rfl]
      omega
    · rw [step_phase_of_ne (Ne.symm hk), ih, beq_eq_false_iff_ne.mpr hk, if_neg Bool.false_ne_true,
        Nat.add_zero]

/-! ### A reload in a row -/

/-- A call whose steps come in a row is a reload. -/
theorem run_alone (calls : ι → ReloadCall) (s : Reloads ι) (h : s.phase i = .idle) :
    (run calls s [i, i, i, i]).store
        = ({ s.store with source := (calls i).source }.reload (calls i).now).1.store ∧
      (run calls s [i, i, i, i]).phase i
        = .done ({ s.store with source := (calls i).source }.reload (calls i).now).2 := by
  simp only [run, List.foldl, step, h, Function.update_self, ReloadPhase.next]
  exact ⟨rfl, rfl⟩

/-! ### The rules in force -/

/-- The call whose load is the last one in a schedule: the load of a call is its second step. -/
inductive LoadsLast : List ι → ι → Prop where
  /-- The call loads, and this is the last step. -/
  | load {steps : List ι} {i : ι} (h : steps.count i = 1) : LoadsLast (steps ++ [i]) i
  /-- A step that is no load comes later. -/
  | later {steps : List ι} {i j : ι} (h : LoadsLast steps j) (hi : steps.count i ≠ 1) :
      LoadsLast (steps ++ [i]) j

/-- No step of some is a load, if others come before them. -/
def Loadless (before steps : List ι) : Prop :=
  ∀ first i others, steps = first ++ i :: others → (before ++ first).count i ≠ 1

theorem LoadsLast.append (h : LoadsLast before j) (hsteps : Loadless before steps) :
    LoadsLast (before ++ steps) j := by
  induction steps using List.reverseRecOn with
  | nil => rwa [List.append_nil]
  | append_singleton steps k ih =>
    rw [← List.append_assoc]
    refine .later (ih ?_) (hsteps steps k [] rfl)
    intro first i others hsplit
    refine hsteps first i (others ++ [k]) ?_
    rw [hsplit, List.append_assoc, List.cons_append]

theorem LoadsLast.unique (h : LoadsLast steps j) (h' : LoadsLast steps k) : j = k := by
  -- the last step is a load by both, or by neither
  induction h with
  | load hj =>
    generalize hsteps : _ ++ [_] = all at h'
    cases h' with
    | load => exact (List.append_inj' hsteps rfl).2 |> List.singleton_inj.mp
    | later _ hk =>
      obtain ⟨rfl, hi⟩ := List.append_inj' hsteps rfl
      obtain rfl := List.singleton_inj.mp hi
      exact absurd hj hk
  | later h hi ih =>
    generalize hsteps : _ ++ [_] = all at h'
    cases h' with
    | load hk =>
      obtain ⟨rfl, hi'⟩ := List.append_inj' hsteps rfl
      obtain rfl := List.singleton_inj.mp hi'
      exact absurd hk hi
    | later h' _ =>
      obtain ⟨rfl, -⟩ := List.append_inj' hsteps rfl
      exact ih h'

theorem exists_loadsLast (h : 2 ≤ steps.count i) : ∃ j, LoadsLast steps j := by
  induction steps using List.reverseRecOn with
  | nil => exact absurd h (by simp)
  | append_singleton steps k ih =>
    by_cases hk : steps.count k = 1
    · exact ⟨k, .load hk⟩
    · -- the last step is not the second one of the call, so both of these come before it
      have hcount : 2 ≤ steps.count i := by
        rw [List.count_append, List.count_singleton] at h
        by_cases hki : k = i
        · obtain rfl := hki
          simp only [beq_self_eq_true, if_true] at h
          omega
        · simpa [hki] using h
      obtain ⟨j, hj⟩ := ih hcount
      exact ⟨j, .later hj hk⟩

/-- The rules in force are those of the call that loads last. -/
theorem run_rules (h : LoadsLast steps j) :
    (run calls (start store) steps).store.rules = (calls j).rules := by
  have hstep : ∀ (steps : List ι) (i : ι), (run calls (start store) (steps ++ [i])).store.rules
      = if steps.count i = 1 then (calls i).rules
        else (run calls (start store) steps).store.rules := by
    intro steps i
    have hage : min 4 (steps.count i) = 1 ↔ steps.count i = 1 := by omega
    rw [run_snoc]
    refine (ReloadPhase.rules_next _).trans ?_
    rw [run_age]
    simp only [hage]
  induction h with
  | load hi => rw [hstep, if_pos hi]
  | later _ hi ih => rw [hstep, if_neg hi, ih]

/-! ### What is reported -/

theorem exists_split {n : Nat} (h : n + 1 ≤ steps.count i) :
    ∃ before rest, steps = before ++ i :: rest ∧ i ∉ before ∧ n ≤ rest.count i := by
  obtain ⟨before, rest, rfl, hbefore⟩ :=
    List.eq_append_cons_of_mem (List.count_pos_iff.mp (by omega : 0 < steps.count i))
  rw [List.count_append, List.count_eq_zero_of_not_mem hbefore, List.count_cons_self] at h
  exact ⟨before, rest, rfl, hbefore, by omega⟩

/-- **The whole report of a call.**  It counts the rules in force at its first step and at its
third, tells whether its own load succeeded, and gives the time of the last load at its fourth
step. -/
theorem report_eq {b₀ b₁ b₂ b₃ : List ι} (h₀ : i ∉ b₀) (h₁ : i ∉ b₁) (h₂ : i ∉ b₂) (h₃ : i ∉ b₃)
    (rest : List ι) :
    let counted := b₀ ++ [i] ++ b₁ ++ [i] ++ b₂
    let looked := counted ++ [i] ++ b₃
    (run calls (start store) (looked ++ [i] ++ rest)).phase i
      = .done (.make (calls i).succeeds (run calls (start store) b₀).store.rules.length
          (run calls (start store) counted).store.rules.length
          (run calls (start store) looked).store.activity.lastLoad) := by
  intro counted looked
  have hbegun : (run calls (start store) (b₀ ++ [i])).phase i
      = .begun (run calls (start store) b₀).store.rules.length := by
    rw [run_phase_snoc h₀]
    rfl
  have hloaded : (run calls (start store) (b₀ ++ [i] ++ b₁ ++ [i])).phase i
      = .loaded (run calls (start store) b₀).store.rules.length (calls i).succeeds := by
    rw [List.append_assoc, run_append, run_phase_snoc h₁, hbegun]
    exact congrArg _ (ReloadCall.load_success ..)
  -- the count sees the store as others have left it since the load
  have hcounted : (run calls (start store) (counted ++ [i])).phase i
      = .counted (run calls (start store) b₀).store.rules.length (calls i).succeeds
          (run calls (start store) counted).store.rules.length := by
    rw [List.append_assoc, run_append, run_phase_snoc h₂, hloaded, ← run_append]
    rfl
  rw [run_append]
  refine run_phase_of_done ?_
  rw [List.append_assoc, run_append, run_phase_snoc h₃, hcounted, ← run_append]
  rfl

/-- **A report gives the number of rules of the call that loads last before the count.**  Whatever
calls there are and in whatever order they take their steps, a call that has given its report has
counted at its third step; there is one call that loads last before that.  The report tells whether
the call's own load succeeded, but what it gives as the current number of rules is the number of
those which that other call put in force.  So it is its own number where the two put equally many
rules in force, and it is its own load that counts where no other call loads after it and before the
count. -/
theorem givesCurrent_iff (calls : ι → ReloadCall) (store : RuleStore) (steps : List ι)
    (h : ((run calls (start store) steps).phase i).report? = some r) :
    ∃ before rest j, steps = before ++ i :: rest ∧ before.count i = 2 ∧ LoadsLast before j ∧
      r.success = (calls i).succeeds ∧
      (∀ n, r.GivesCurrent n ↔ n = (calls j).rules.length) ∧
      ∀ first others, before = first ++ i :: others → i ∉ others →
        Loadless (first ++ [i]) others → j = i := by
  -- the four steps of the call in the schedule
  have hcount : 3 + 1 ≤ steps.count i := by
    have hage := ReloadPhase.age_of_report? h
    rw [run_age] at hage
    omega
  obtain ⟨b₀, rest, rfl, h₀, hcount⟩ := exists_split hcount
  obtain ⟨b₁, rest, rfl, h₁, hcount⟩ := exists_split hcount
  obtain ⟨b₂, rest, rfl, h₂, hcount⟩ := exists_split hcount
  obtain ⟨b₃, rest, rfl, h₃, -⟩ := exists_split hcount
  let counted := b₀ ++ [i] ++ b₁ ++ [i] ++ b₂
  have hsteps : b₀ ++ i :: (b₁ ++ i :: (b₂ ++ i :: (b₃ ++ i :: rest)))
      = counted ++ [i] ++ b₃ ++ [i] ++ rest := by simp [counted]
  have htwo : counted.count i = 2 := by
    simp [counted, List.count_append, List.count_eq_zero_of_not_mem, h₀, h₁, h₂]
  obtain ⟨j, hj⟩ := exists_loadsLast (Nat.le_of_eq htwo.symm)
  rw [hsteps, report_eq h₀ h₁ h₂ h₃ rest] at h
  obtain rfl := Option.some.inj h
  refine ⟨counted, b₃ ++ i :: rest, j, ?_, htwo, hj, rfl, ?_, ?_⟩
  · rw [hsteps]
    simp
  · intro n
    rw [ReloadReport.givesCurrent_make, run_rules hj]
  · -- the call's own load is followed by none
    intro first others hsplit hothers hquiet
    rw [hsplit, List.append_cons] at hj
    rw [hsplit, List.count_append, List.count_cons_self,
      List.count_eq_zero_of_not_mem hothers] at htwo
    have hown : LoadsLast (first ++ [i]) i := .load (by omega)
    exact hj.unique (hown.append hquiet)

/-- Two calls: the source fails for one, and gives one rule to the other. -/
def rivals : Bool → ReloadCall
  | false => { source := .failing (.outside "RuntimeError" "disk on fire"), now := Sample.noon }
  | true =>
    { source := .document (.record [("rules", .list [.record [("id", .text "r")]])])
      now := Sample.noon }

/-- Two calls that have counted before either loads, and both of which report. -/
theorem givesCurrent_iff_rivals :
    ∃ r, ((run rivals (start { source := .failing .notJson })
        [true, false, false, true, true, false, false, true]).phase true).report? = some r ∧
      r.success = true ∧ ∃ j, ∀ n, r.GivesCurrent n ↔ n = (rivals j).rules.length := by
  have hreports : ((run rivals (start { source := .failing .notJson })
      [true, false, false, true, true, false, false, true]).phase true).report?.isSome = true := by
    decide +kernel
  obtain ⟨r, hr⟩ := Option.isSome_iff_exists.mp hreports
  obtain ⟨_, _, j, -, -, -, hsuccess, hgives, -⟩ := givesCurrent_iff _ _ _ hr
  have hown : (rivals true).succeeds = true := by decide +kernel
  exact ⟨r, hr, hsuccess.trans hown, j, hgives⟩

/-- A call that reports on its own failure, and the number of rules that another call has put in
force since. -/
theorem exists_foreign_current :
    ∃ r, ((run rivals (start { source := .failing .notJson })
        [false, false, true, true, false, false]).phase false).report? = some r ∧
      r.success = false ∧ (rivals false).rules = [] ∧
      r.message = "Rule reload failed; rule set cleared. Previous: 0, Current: 1" ∧
      ¬ r.GivesCurrent (rivals false).rules.length := by
  have hreports : ((run rivals (start { source := .failing .notJson })
      [false, false, true, true, false, false]).phase false).report?.any (fun r => !r.success &&
        decide (r.message = "Rule reload failed; rule set cleared. Previous: 0, Current: 1"))
        = true := by
    decide +kernel
  obtain ⟨r, hr, htest⟩ := (Option.any_eq_true _ _).mp hreports
  obtain ⟨hfailed, hmessage⟩ : r.success = false ∧
      r.message = "Rule reload failed; rule set cleared. Previous: 0, Current: 1" := by
    simpa using htest
  have hone : r.GivesCurrent 1 := ⟨"Rule reload failed; rule set cleared. Previous: 0", hmessage⟩
  have hnone : (rivals false).rules = [] := rfl
  refine ⟨r, hr, hfailed, hnone, hmessage, fun hown => ?_⟩
  rw [hnone] at hown
  exact absurd (hown.unique hone) (by decide)

end Reloads
end OfferRules

import OfferRules.Proofs.Accounting
import OfferRules.Sample

/-!
# The rules in force over a run

The rules in force are those of the last load if it succeeded, and none if it failed or if there
was no load.  Nothing else touches them: replacing the source, or a selection, leaves them as they
are.  The gauge of the service always shows how many there are, its tallies count the loads, and
the time of the last load is known as soon as there was one.

## Main definitions

* `Engine.Action.isLoad`, `Engine.Answer.reports` — loads, and answers that tell how one ended.
* `Engine.lastSource` — the source in place after some actions.
* `Strategy.Abstains` — a strategy selects none where no rule is eligible.
* `Engine.Metered` — the metrics of an engine agree with its rules and with the answers so far.

## Main results

* `Engine.load_cases` — what a load puts in force.
* `Engine.Metered.act`, `Engine.Metered.run` — one action and a run keep the agreement.
* `Engine.run_lifecycle` — **the rules in force over a run.**
-/

namespace OfferRules

/-! ### Selections without rules -/

/-- A strategy selects none where no rule is eligible. -/
def Strategy.Abstains (s : Strategy) : Prop :=
  ∀ draws player c, s.select [] draws player = .ok c → c.1 = none

/-- Every strategy but those from outside abstains. -/
theorem Strategy.abstains_of_ne_outside {s : Strategy}
    (h : ∀ title choose, s ≠ .outside title choose) : s.Abstains := by
  intro draws player c hc
  cases s with
  | priority =>
    obtain rfl := Except.ok.inj hc
    rfl
  | weighted =>
    obtain rfl := Except.ok.inj hc
    rfl
  | outside title choose => exact absurd rfl (h title choose)

/-- A source gives the rules of the document that it gives. -/
theorem RuleSource.rules_eq_ok {s : RuleSource} {rs : List Rule} :
    s.rules = .ok rs ↔ ∃ doc, s.read = .ok doc ∧ RuleSet.parse doc = .ok rs := by
  rw [RuleSource.rules]
  cases s.read with
  | ok doc => simp [Bind.bind, Except.bind]
  | error problem => simp [Bind.bind, Except.bind]

namespace Engine

open Traced

variable {e : Engine}

/-- Where no rules are in force, nobody gets a promotion. -/
theorem select_of_rules_nil (hrules : e.rules = []) (hs : e.strategy.Abstains) (now : DateTime)
    (elapsed : Magnitude) (player : Value) : (e.select now elapsed player).promotion = none := by
  cases hp : playerProblem? player with
  | some problem => rw [select_of_problem elapsed hp]
  | none =>
    cases hc : (e.choose now player).outcome with
    | error f => rw [select_of_error elapsed hp hc]
    | ok c =>
      rw [select_of_ok elapsed hp hc]
      -- no rule is eligible, so the choice is what the strategy makes of none
      obtain ⟨_, -, hc⟩ := bind_outcome_eq_ok.mp hc
      rw [hrules] at hc
      obtain ⟨eligible, heligible, hc⟩ := bind_outcome_eq_ok.mp hc
      obtain rfl : [] = eligible := Except.ok.inj heligible
      obtain ⟨selected, hselected, hc⟩ := bind_outcome_eq_ok.mp hc
      have hnone : selected.1 = none := hs _ _ _ hselected
      obtain rfl := Except.ok.inj hc
      exact Option.map_eq_none_iff.mpr hnone

/-! ### Actions -/

/-- Whether an action loads the rules. -/
def Action.isLoad : Action → Bool
  | load _ | reload _ => true
  | _ => false

/-- Whether an answer tells that a load succeeded, or that it failed. -/
def Answer.reports (success : Bool) : Answer → Bool
  | loaded b => b == success
  | reloaded r => r.success == success
  | _ => false

/-- A load does not both fail and succeed. -/
theorem Answer.not_reports {ans : Answer} (h : ans.reports false = true) :
    ans.reports true = false := by
  cases ans with
  | loaded b => cases b <;> simp_all [reports]
  | reloaded r => cases hr : r.success <;> simp_all [reports]
  | _ => exact nomatch h

/-- The source in place after an action. -/
def Action.sourceAfter (source : RuleSource) : Action → RuleSource
  | replace source' => source'
  | _ => source

/-- The source in place after some actions. -/
def lastSource (source : RuleSource) (actions : List Action) : RuleSource :=
  actions.foldl Action.sourceAfter source

theorem act_source (e : Engine) (a : Action) :
    (e.act a).1.store.source = a.sourceAfter e.store.source := by
  have hload (now : DateTime) : (e.load now).1.store.source = e.store.source := by
    unfold load RuleStore.load
    dsimp only
    split <;> rfl
  cases a with
  | replace source => rfl
  | arrange gates strategy draws => rfl
  | load now => exact hload now
  | reload now => exact hload now
  | select now elapsed player =>
    show (e.select now elapsed player).engine.store.source = _
    rw [select_store]
    rfl
  | read => rfl

/-- Only a load touches the rules in force, and only its answer tells of a load. -/
theorem act_of_not_isLoad {a : Action} (h : a.isLoad = false) :
    (e.act a).1.rules = e.rules ∧ ∀ success, (e.act a).2.reports success = false := by
  cases a with
  | replace source => exact ⟨rfl, fun _ => rfl⟩
  | arrange gates strategy draws => exact ⟨rfl, fun _ => rfl⟩
  | load now => exact nomatch h
  | reload now => exact nomatch h
  | select now elapsed player => exact ⟨select_rules e now elapsed player, fun _ => rfl⟩
  | read => exact ⟨rfl, fun _ => rfl⟩

theorem load_of_ok {rs : List Rule} (h : e.store.source.rules = .ok rs) (now : DateTime) :
    (e.load now).2.1 = true ∧ (e.load now).1.rules = rs := by
  unfold load RuleStore.load rules
  rw [h]
  exact ⟨rfl, rfl⟩

theorem load_of_error {problem : SourceProblem} (h : e.store.source.rules = .error problem)
    (now : DateTime) : (e.load now).2.1 = false ∧ (e.load now).1.rules = [] := by
  unfold load RuleStore.load rules
  rw [h]
  exact ⟨rfl, rfl⟩

/-- A load puts the rules of the document that its source gives in force, or none if the source or
the document is at fault. -/
theorem load_cases (e : Engine) (now : DateTime) :
    ((e.load now).2.1 = true ∧ ∃ doc, e.store.source.read = .ok doc ∧
      RuleSet.parse doc = .ok (e.load now).1.rules) ∨
    ((e.load now).2.1 = false ∧ (e.load now).1.rules = [] ∧
      ∃ problem, e.store.source.rules = .error problem) := by
  cases hrules : e.store.source.rules with
  | ok rs =>
    obtain ⟨hsuccess, hload⟩ := load_of_ok hrules now
    rw [hload]
    exact Or.inl ⟨hsuccess, RuleSource.rules_eq_ok.mp hrules⟩
  | error problem =>
    obtain ⟨hsuccess, hload⟩ := load_of_error hrules now
    exact Or.inr ⟨hsuccess, hload, problem, rfl⟩

/-- A load and a reload do the same, and both tell how it ended. -/
theorem act_of_isLoad {a : Action} (h : a.isLoad = true) :
    ∃ now, (e.act a).1 = (e.load now).1 ∧
      ∀ success, (e.act a).2.reports success = ((e.load now).2.1 == success) := by
  cases a with
  | load now => exact ⟨now, rfl, fun _ => rfl⟩
  | reload now => exact ⟨now, rfl, fun _ => rfl⟩
  | replace source => exact nomatch h
  | arrange gates strategy draws => exact nomatch h
  | select now elapsed player => exact nomatch h
  | read => exact nomatch h

/-! ### Runs -/

variable {actions : List Action}

theorem run_source (e : Engine) (actions : List Action) :
    (e.run actions).1.store.source = lastSource e.store.source actions := by
  induction actions generalizing e with
  | nil => rfl
  | cons a rest ih =>
    rw [run_cons, ih, act_source]
    rfl

/-- Without a load the rules in force stay. -/
theorem run_rules_of_not_isLoad (h : ∀ a ∈ actions, a.isLoad = false) :
    (e.run actions).1.rules = e.rules := by
  induction actions generalizing e with
  | nil => rfl
  | cons a rest ih =>
    rw [List.forall_mem_cons] at h
    rw [run_cons, ih h.2, (act_of_not_isLoad h.1).1]

/-- What a load or reload puts in force, and what it tells. -/
theorem act_cases {a : Action} (h : a.isLoad = true) :
    ((∀ success, (e.act a).2.reports success = success) ∧ ∃ doc, e.store.source.read = .ok doc ∧
      RuleSet.parse doc = .ok (e.act a).1.rules) ∨
    ((∀ success, (e.act a).2.reports success = !success) ∧ (e.act a).1.rules = [] ∧
      ∃ problem, e.store.source.rules = .error problem) := by
  obtain ⟨now, hact, hreports⟩ := act_of_isLoad (e := e) h
  simp only [hact, hreports]
  rcases load_cases e now with ⟨hsuccess, hdoc⟩ | ⟨hsuccess, hproblem⟩
  · exact Or.inl ⟨fun success => by rw [hsuccess, Bool.true_beq], hdoc⟩
  · exact Or.inr ⟨fun success => by rw [hsuccess, Bool.false_beq], hproblem⟩

/-- A load that failed leaves no rules in force, and what does not tell of a success puts none in
force. -/
theorem act_rules_of_not_reports {a : Action} (h : (e.act a).2.reports true = false)
    (hnil : e.rules = [] ∨ (e.act a).2.reports false = true) : (e.act a).1.rules = [] := by
  cases ha : a.isLoad with
  | false =>
    obtain ⟨hsame, hreports⟩ := act_of_not_isLoad (e := e) ha
    rw [hreports] at hnil
    rw [hsame, hnil.resolve_right Bool.false_ne_true]
  | true =>
    rcases act_cases (e := e) ha with ⟨hreports, -⟩ | ⟨-, hnone, -⟩
    · rw [hreports] at h
      exact nomatch h
    · exact hnone

theorem run_rules_of_nil (hrules : e.rules = [])
    (h : ∀ ans ∈ (e.run actions).2, ans.reports true = false) :
    (e.run actions).1.rules = [] := by
  induction actions generalizing e with
  | nil => exact hrules
  | cons a rest ih =>
    rw [run_cons, List.forall_mem_cons] at h
    exact ih (act_rules_of_not_reports h.1 (Or.inl hrules)) h.2

/-- From a failed load on, no rules are in force until a load succeeds. -/
theorem run_rules_of_answers {before behind : List Answer} {ans : Answer}
    (h : (e.run actions).2 = before ++ ans :: behind) (hfailed : ans.reports false = true)
    (hnone : ∀ ans' ∈ behind, ans'.reports true = false) : (e.run actions).1.rules = [] := by
  induction actions generalizing e before with
  | nil => simp at h
  | cons a rest ih =>
    rw [run_cons] at h ⊢
    cases before with
    | nil =>
      obtain ⟨rfl, rfl⟩ := List.cons.inj h
      exact run_rules_of_nil (act_rules_of_not_reports (Answer.not_reports hfailed)
        (Or.inr hfailed)) hnone
    | cons first before => exact ih (List.cons.inj h).2

/-! ### Metrics -/

/-- The metrics of an engine agree with its rules in force and with the answers so far. -/
structure Metered (e : Engine) (answers : List Answer) : Prop where
  /-- The gauge shows how many rules are in force, and the tallies count the loads. -/
  meters : ∃ m, e.activity.meters? = some m ∧ m.loaded = .int e.rules.length ∧
    ∀ success, m.loads.count success = answers.countP (Answer.reports success)
  /-- The time of the last load is known if there was one. -/
  stamp : e.activity.lastLoad.isSome
    = answers.any fun ans => ans.reports true || ans.reports false

/-- What touches neither the rules nor the metrics of loads keeps the agreement. -/
theorem Metered.of_frame {e e' : Engine} {answers : List Answer} {ans : Answer}
    (h : e.Metered answers) (hans : ∀ success, ans.reports success = false)
    (hrules : e'.rules = e.rules) (hstamp : e'.activity.lastLoad = e.activity.lastLoad)
    (hmeters : ∀ m, e.activity.meters? = some m → ∃ m', e'.activity.meters? = some m' ∧
      m'.loaded = m.loaded ∧ m'.loads = m.loads) : e'.Metered (answers ++ [ans]) := by
  obtain ⟨m, hm, hloaded, hcount⟩ := h.meters
  obtain ⟨m', hm', hloaded', hloads'⟩ := hmeters m hm
  refine ⟨⟨m', hm', by rw [hloaded', hloaded, hrules], fun success => ?_⟩, ?_⟩
  · rw [hloads', hcount, List.countP_append]
    simp [hans]
  · rw [hstamp, h.stamp, List.any_append]
    simp [hans]

theorem Metered.load {answers : List Answer} (h : e.Metered answers) (now : DateTime)
    {ans : Answer} (hans : ∀ success, ans.reports success = ((e.load now).2.1 == success)) :
    (e.load now).1.Metered (answers ++ [ans]) := by
  obtain ⟨m, hm, -, hcount⟩ := h.meters
  have hact := load_activity e now
  refine ⟨⟨_, by rw [hact, Activity.meters?_markLoad, hm]; rfl, rfl, fun success => ?_⟩, ?_⟩
  · rw [Tally.count_add, hcount, List.countP_append]
    simp [hans]
  · rw [hact, List.any_append]
    cases hb : (e.load now).2.1 <;> simp [Activity.markLoad, hans, hb]

theorem Metered.select {answers : List Answer} (h : e.Metered answers) (now : DateTime)
    (elapsed : Magnitude) (x : Value) :
    (e.select now elapsed x).engine.Metered
      (answers ++ [.selected (e.select now elapsed x).promotion]) := by
  have hact := select_activity e now elapsed x
  refine h.of_frame (fun _ => rfl) (select_rules e now elapsed x) ?_ ?_
  · rw [hact]
    rfl
  · intro m hm
    rw [hact, Activity.meters?_record, hm]
    exact ⟨_, rfl, rfl, rfl⟩

/-- **One action keeps the agreement** of the metrics with the rules in force. -/
theorem Metered.act {answers : List Answer} (h : e.Metered answers) (a : Action) :
    (e.act a).1.Metered (answers ++ [(e.act a).2]) := by
  cases a with
  | replace source => exact h.of_frame (fun _ => rfl) rfl rfl fun m hm => ⟨m, hm, rfl, rfl⟩
  | arrange gates strategy draws =>
    exact h.of_frame (fun _ => rfl) rfl rfl fun m hm => ⟨m, hm, rfl, rfl⟩
  | load now => exact h.load now fun _ => rfl
  | reload now => exact h.load now fun _ => rfl
  | select now elapsed player => exact h.select now elapsed player
  | read => exact h.of_frame (fun _ => rfl) rfl rfl fun m hm => ⟨m, hm, rfl, rfl⟩

/-- A run keeps the agreement of the metrics with the rules in force. -/
theorem Metered.run {answers : List Answer} (h : e.Metered answers) (actions : List Action) :
    (e.run actions).1.Metered (answers ++ (e.run actions).2) :=
  run_induction Metered (fun _ _ h a => h.act a) h actions

theorem metered_fresh (source : RuleSource) (gates : List Gate) (strategy : Strategy)
    (draws : Draws) : (fresh source gates strategy draws).Metered [] := by
  refine ⟨⟨{}, ?_, rfl, fun _ => rfl⟩, rfl⟩
  show (Collector.ofService promotionsName).promotions = some {}
  rw [Collector.ofService, if_pos rfl]

/-- As many answers tell of loads as loads were asked for. -/
theorem countP_reports (e : Engine) (actions : List Action) :
    (e.run actions).2.countP (Answer.reports true) + (e.run actions).2.countP (Answer.reports false)
      = actions.countP Action.isLoad := by
  induction actions generalizing e with
  | nil => rfl
  | cons a rest ih =>
    rw [run_cons, List.countP_cons, List.countP_cons, List.countP_cons, ← ih (e.act a).1]
    cases ha : a.isLoad with
    | false =>
      rw [(act_of_not_isLoad ha).2, (act_of_not_isLoad ha).2]
      simp
    | true =>
      -- a load succeeds or fails, and its answer tells one of the two
      rcases act_cases (e := e) ha with ⟨hreports, -⟩ | ⟨hreports, -⟩
      · rw [hreports, hreports]
        simp
        omega
      · rw [hreports, hreports]
        simp
        omega

theorem any_reports (e : Engine) (actions : List Action) :
    ((e.run actions).2.any fun ans => ans.reports true || ans.reports false)
      = actions.any Action.isLoad := by
  induction actions generalizing e with
  | nil => rfl
  | cons a rest ih =>
    rw [run_cons, List.any_cons, List.any_cons, ih]
    cases ha : a.isLoad with
    | false => rw [(act_of_not_isLoad ha).2, (act_of_not_isLoad ha).2, Bool.or_self]
    | true =>
      rcases act_cases (e := e) ha with ⟨hreports, -⟩ | ⟨hreports, -⟩
      · rw [hreports, Bool.true_or]
      · rw [hreports, hreports, Bool.not_false, Bool.or_true]

/-- **The rules in force over a run.**  Whatever is done with a new engine, the last load decides
which rules are in force afterwards: those of the document that the source in place gave, if the
load told that it succeeded, and none if it told that it failed or if there was no load.  From a
failed load on, nobody gets a promotion until a load succeeds, and replacing the source changes
nothing else.  The gauge shows how many rules are in force, the tallies count the loads by how they
ended, the time of the last load is known exactly if there was one, and the message of a reload
gives the number of rules before and after it. -/
theorem run_lifecycle (source : RuleSource) (gates : List Gate) (strategy : Strategy)
    (draws : Draws) (actions : List Action) :
    let e := ((fresh source gates strategy draws).run actions).1
    let answers := ((fresh source gates strategy draws).run actions).2
    ((∀ a ∈ actions, a.isLoad = false) → e.rules = []) ∧
    (∀ pre a post, actions = pre ++ a :: post → a.isLoad = true → (∀ b ∈ post, b.isLoad = false) →
      ∃ ans, answers[pre.length]? = some ans ∧
        (ans.reports true = true ∧ (∃ doc, (lastSource source pre).read = .ok doc ∧
            RuleSet.parse doc = .ok e.rules) ∨
          ans.reports false = true ∧ e.rules = [] ∧
            ∃ problem, (lastSource source pre).rules = .error problem)) ∧
    (∀ before ans behind, answers = before ++ ans :: behind → ans.reports false = true →
      (∀ ans' ∈ behind, ans'.reports true = false) → e.strategy.Abstains →
      ∀ now elapsed player, (e.select now elapsed player).promotion = none) ∧
    (∀ source', (e.act (.replace source')).1.withSource e.store.source = e) ∧
    (∃ m, e.activity.meters? = some m ∧ m.loaded = .int e.rules.length ∧
      (∀ success, m.loads.count success = answers.countP (Answer.reports success)) ∧
      m.loads.count true + m.loads.count false = actions.countP Action.isLoad) ∧
    (e.activity.lastLoad.isSome = actions.any Action.isLoad) ∧
    (∀ now, ∃ report, (e.act (.reload now)).2 = .reloaded report ∧
      report.message = (if report.success then "Rules reloaded successfully."
        else "Rule reload failed; rule set cleared.") ++ " Previous: " ++ toString e.rules.length ++
          ", Current: " ++ toString (e.act (.reload now)).1.rules.length) := by
  intro e answers
  -- a new engine agrees with no answers, and every action keeps the agreement
  have h : e.Metered answers := (metered_fresh source gates strategy draws).run actions
  have hasked : answers.countP (Answer.reports true) + answers.countP (Answer.reports false)
      = actions.countP Action.isLoad := countP_reports _ actions
  refine ⟨fun hno => run_rules_of_not_isLoad hno, ?_, ?_, fun source' => rfl, ?_, ?_, ?_⟩
  · intro pre a post hactions ha hpost
    let e₀ := ((fresh source gates strategy draws).run pre).1
    have hsource : e₀.store.source = lastSource source pre := run_source _ pre
    have hanswer : answers[pre.length]? = some (e₀.act a).2 := by
      subst hactions
      exact getElem?_run _ pre a post
    have hrules : e.rules = (e₀.act a).1.rules := by
      show ((fresh source gates strategy draws).run actions).1.rules = _
      rw [hactions, run_append, run_cons, run_rules_of_not_isLoad hpost]
    refine ⟨_, hanswer, ?_⟩
    rw [hrules, ← hsource]
    rcases act_cases (e := e₀) ha with ⟨hreports, hdoc⟩ | ⟨hreports, hproblem⟩
    · exact Or.inl ⟨hreports true, hdoc⟩
    · exact Or.inr ⟨hreports false, hproblem⟩
  · intro before ans behind hanswers hfailed hnone hs
    exact select_of_rules_nil (run_rules_of_answers hanswers hfailed hnone) hs
  · obtain ⟨m, hm, hloaded, hcount⟩ := h.meters
    exact ⟨m, hm, hloaded, hcount, by rw [hcount, hcount, hasked]⟩
  · rw [h.stamp]
    exact any_reports _ actions
  · intro now
    exact ⟨_, rfl, rfl⟩

/-- Rules are loaded, and then the source fails when they are reloaded. -/
def failedReload : List Action :=
  [.load Sample.noon, .replace (.failing (.outside "RuntimeError" "disk on fire")),
    .reload Sample.noon]

/-- After a reload that failed nobody gets a promotion, whatever was in force before. -/
theorem run_lifecycle_failedReload :
    let start := fresh (.document Sample.document) [.pass] .priority { draw := fun _ => .zero }
    (start.run [.load Sample.noon]).1.rules.length = 3 ∧
      ∀ now elapsed player,
        ((start.run failedReload).1.select now elapsed player).promotion = none := by
  intro start
  have hthree : (start.run [.load Sample.noon]).1.rules.length = 3 := by decide +kernel
  refine ⟨hthree, ?_⟩
  obtain ⟨-, -, hnone, -⟩ := run_lifecycle (.document Sample.document) [.pass] .priority
    { draw := fun _ => .zero } failedReload
  refine hnone [_, _] _ [] rfl ?_ (List.forall_mem_nil _) ?_
  · decide +kernel
  · exact Strategy.abstains_of_ne_outside (s := .priority) nofun

end Engine
end OfferRules

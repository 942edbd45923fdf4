import OfferRules.Proofs.Run
import OfferRules.Proofs.Selection

/-!
# The account of selections

Every selection is entered once into the account of its engine and into the metrics of the
service, as a hit or as a miss, whatever way it ends.  So after any run both agree with what the
engine answered.

## Main definitions

* `Activity.meters?` — the metrics of promotions that an account is passed on to.
* `Engine.Accounted` — an account and its metrics agree with the answers so far.

## Main results

* `Histogram.count_observe` — a duration that is a number is counted once.
* `Engine.select_activity` — a selection is entered once, by what it answers.
* `Engine.Accounted.act`, `Engine.Accounted.run` — one action and a run keep the agreement.
* `Engine.run_accounted` — **the account of a run.**
-/

namespace OfferRules

/-! ### Histograms -/

namespace Histogram

theorem length_place (d : Double) (bs : List Double) (ns : List Nat) :
    (place d bs ns).length = ns.length := by
  induction bs generalizing ns with
  | nil => rfl
  | cons b bs ih =>
    cases ns with
    | nil => rfl
    | cons n ns =>
      unfold place
      split
      · rfl
      · rw [List.length_cons, ih, List.length_cons]

theorem foldr_place {d : Double} {bs : List Double} {ns : List Nat}
    (hlen : bs.length = ns.length) (hd : ∃ b ∈ bs, d.le b = true) :
    (place d bs ns).foldr (· + ·) 0 = ns.foldr (· + ·) 0 + 1 := by
  induction bs generalizing ns with
  | nil => simp at hd
  | cons b bs ih =>
    cases ns with
    | nil => simp at hlen
    | cons n ns =>
      unfold place
      by_cases hb : d.le b = true
      · rw [if_pos hb, List.foldr_cons, List.foldr_cons]
        omega
      · -- the duration is above the first bound, so one of the others holds it
        have hd' : ∃ b ∈ bs, d.le b = true := by
          obtain ⟨b', hmem, hle⟩ := hd
          rcases List.mem_cons.mp hmem with rfl | hmem
          · exact absurd hle hb
          · exact ⟨b', hmem, hle⟩
        rw [if_neg hb, List.foldr_cons, List.foldr_cons, ih (by simpa using hlen) hd']
        omega

theorem le_infinite {d : Double} (hd : d ≠ .nan) : d.le (.infinite false) = true := by
  cases d with
  | nan => exact absurd rfl hd
  | infinite negative => cases negative <;> rfl
  | finite negative size => rfl

/-- A duration that is a number is counted once. -/
theorem count_observe {h : Histogram} (hlen : h.buckets.length = bounds.length) {d : Double}
    (hd : d ≠ .nan) : (h.observe d).count = h.count + 1 :=
  foldr_place hlen.symm ⟨.infinite false, by simp [bounds], le_infinite hd⟩

theorem length_observe (h : Histogram) (d : Double) :
    (h.observe d).buckets.length = h.buckets.length :=
  length_place d bounds h.buckets

theorem length_empty : empty.buckets.length = bounds.length := by
  simp [empty, bounds]

end Histogram

theorem Double.ofUnits_ne_nan (negative : Bool) (num den : Nat) :
    Double.ofUnits negative num den ≠ .nan := by
  unfold Double.ofUnits
  split <;> simp

theorem thousand_isZero : thousand.isFinite = true ∧ thousand.isZero = false := by
  decide +kernel

/-- Milliseconds are a number of seconds. -/
theorem div_thousand_ne_nan (elapsed : Magnitude) :
    Double.finite false elapsed / thousand ≠ .nan := by
  obtain ⟨hfin, hzero⟩ := thousand_isZero
  cases ht : thousand with
  | nan => rw [ht] at hfin; exact nomatch hfin
  | infinite negative => rw [ht] at hfin; exact nomatch hfin
  | finite negative size =>
    have hsize : size.units ≠ 0 := by
      rw [ht] at hzero
      simpa [Double.isZero] using hzero
    show Double.div (.finite false elapsed) (.finite negative size) ≠ .nan
    rw [Double.div, if_neg hsize]
    exact Double.ofUnits_ne_nan _ _ _

/-! ### One selection -/

/-- The metrics of promotions after a selection. -/
theorem Collector.promotions_recordSelection (c : Collector) (hit : Bool) (seconds : Double) :
    (c.recordSelection hit seconds).promotions = c.promotions.map fun m =>
      { m with
        selections := m.selections.add hit, durations := m.durations.observe seconds } := by
  unfold recordSelection observeSelection countSelection
  cases c.promotions <;> rfl

/-- The metrics of promotions after a load. -/
theorem Collector.promotions_recordLoad (c : Collector) (success : Bool) (rules : Number) :
    (c.recordLoad success rules).promotions = c.promotions.map fun m =>
      { m with loads := m.loads.add success, loaded := rules } := by
  unfold recordLoad setLoaded countLoad
  cases c.promotions <;> rfl

/-- The metrics of promotions that an account is passed on to. -/
def Activity.meters? (a : Activity) : Option PromotionMeters :=
  a.collector.bind Collector.promotions

theorem Activity.meters?_record (a : Activity) (hit : Bool) (d : Double) :
    (a.record hit d).meters? = a.meters?.map fun m =>
      { m with
        selections := m.selections.add hit, durations := m.durations.observe (d / thousand) } := by
  unfold Activity.meters? Activity.record
  cases a.collector with
  | none => rfl
  | some c => exact c.promotions_recordSelection hit (d / thousand)

theorem Activity.meters?_markLoad (a : Activity) (now : DateTime) (success : Bool)
    (rules : Number) :
    (a.markLoad now success rules).meters? = a.meters?.map fun m =>
      { m with loads := m.loads.add success, loaded := rules } := by
  unfold Activity.meters? Activity.markLoad
  cases a.collector with
  | none => rfl
  | some c => exact c.promotions_recordLoad success rules

namespace Engine

/-- A selection is entered once into the account, by what it answers. -/
theorem select_activity (e : Engine) (now : DateTime) (elapsed : Magnitude) (x : Value) :
    (e.select now elapsed x).engine.activity
      = e.activity.record (e.select now elapsed x).promotion.isSome (.finite false elapsed) :=
  congrArg RuleStore.activity (select_store e now elapsed x)

/-- A load is entered into the account with its success and with the number of rules it puts in
force. -/
theorem load_activity (e : Engine) (now : DateTime) :
    (e.load now).1.activity
      = e.activity.markLoad now (e.load now).2.1 (.int (e.load now).1.rules.length) := by
  unfold load RuleStore.load
  dsimp only
  split <;> rfl

/-! ### Runs -/

/-- The account of an engine, and the metrics it is passed on to, agree with the answers so
far. -/
structure Accounted (e : Engine) (answers : List Answer) : Prop where
  /-- The selections are those that were answered. -/
  evaluations : e.activity.evaluations = answers.countP Answer.isSelection
  /-- The hits are the promotions that were answered. -/
  hits : e.activity.hits = answers.countP Answer.isHit
  /-- The misses are the other answers. -/
  misses : e.activity.misses = answers.countP Answer.isMiss
  /-- The metrics say the same, and their histogram has a place for each bound. -/
  metered : ∃ m, e.activity.meters? = some m ∧
    m.selections.count true = answers.countP Answer.isHit ∧
    m.selections.count false = answers.countP Answer.isMiss ∧
    m.durations.count = answers.countP Answer.isSelection ∧
    m.durations.buckets.length = Histogram.bounds.length

/-- What leaves the counts of an account alone keeps the agreement. -/
theorem Accounted.of_frame {e e' : Engine} {answers : List Answer} {ans : Answer}
    (h : e.Accounted answers)
    (hans : ans.isSelection = false ∧ ans.isHit = false ∧ ans.isMiss = false)
    (hcounts : e'.activity.evaluations = e.activity.evaluations ∧
      e'.activity.hits = e.activity.hits ∧ e'.activity.misses = e.activity.misses)
    (hmeters : ∀ m, e.activity.meters? = some m → ∃ m', e'.activity.meters? = some m' ∧
      m'.selections = m.selections ∧ m'.durations = m.durations) :
    e'.Accounted (answers ++ [ans]) := by
  obtain ⟨m, hm, htrue, hfalse, hcount, hlen⟩ := h.metered
  obtain ⟨m', hm', hsel, hdur⟩ := hmeters m hm
  have hcountP (p : Answer → Bool) (hp : p ans = false) :
      (answers ++ [ans]).countP p = answers.countP p := by
    simp [List.countP_append, hp]
  refine ⟨?_, ?_, ?_, m', hm', ?_⟩
  · rw [hcountP _ hans.1, hcounts.1, h.evaluations]
  · rw [hcountP _ hans.2.1, hcounts.2.1, h.hits]
  · rw [hcountP _ hans.2.2, hcounts.2.2, h.misses]
  · rw [hcountP _ hans.1, hcountP _ hans.2.1, hcountP _ hans.2.2, hsel, hdur]
    exact ⟨htrue, hfalse, hcount, hlen⟩

theorem Accounted.select {e : Engine} {answers : List Answer} (h : e.Accounted answers)
    (now : DateTime) (elapsed : Magnitude) (x : Value) :
    (e.select now elapsed x).engine.Accounted
      (answers ++ [.selected (e.select now elapsed x).promotion]) := by
  obtain ⟨m, hm, htrue, hfalse, hcount, hlen⟩ := h.metered
  -- the account depends on the selection only through whether it answered a promotion
  have hact := select_activity e now elapsed x
  generalize (e.select now elapsed x).promotion = promotion at hact ⊢
  have hobserve := Histogram.count_observe hlen (div_thousand_ne_nan elapsed)
  refine ⟨?_, ?_, ?_, ?_⟩
  · rw [hact, List.countP_append, ← h.evaluations]
    rfl
  · rw [hact, List.countP_append, ← h.hits]
    cases promotion <;> rfl
  · rw [hact, List.countP_append, ← h.misses]
    cases promotion <;> rfl
  · rw [hact, Activity.meters?_record, hm]
    refine ⟨_, rfl, ?_, ?_, ?_, ?_⟩
    · rw [Tally.count_add, htrue, List.countP_append]
      cases promotion <;> rfl
    · rw [Tally.count_add, hfalse, List.countP_append]
      cases promotion <;> rfl
    · rw [hobserve, hcount, List.countP_append]
      rfl
    · rw [Histogram.length_observe, hlen]

theorem Accounted.load {e : Engine} {answers : List Answer} (h : e.Accounted answers)
    (now : DateTime) {ans : Answer}
    (hans : ans.isSelection = false ∧ ans.isHit = false ∧ ans.isMiss = false) :
    (e.load now).1.Accounted (answers ++ [ans]) := by
  have hact := load_activity e now
  refine h.of_frame hans ?_ ?_
  · rw [hact]
    exact ⟨rfl, rfl, rfl⟩
  · intro m hm
    rw [hact, Activity.meters?_markLoad, hm]
    exact ⟨_, rfl, rfl, rfl⟩

/-- **One action keeps the agreement** of the account with the answers. -/
theorem Accounted.act {e : Engine} {answers : List Answer} (h : e.Accounted answers)
    (a : Action) : (e.act a).1.Accounted (answers ++ [(e.act a).2]) := by
  cases a with
  | replace source =>
    exact h.of_frame ⟨rfl, rfl, rfl⟩ ⟨rfl, rfl, rfl⟩ fun m hm => ⟨m, hm, rfl, rfl⟩
  | arrange gates strategy draws =>
    exact h.of_frame ⟨rfl, rfl, rfl⟩ ⟨rfl, rfl, rfl⟩ fun m hm => ⟨m, hm, rfl, rfl⟩
  | load now => exact h.load now ⟨rfl, rfl, rfl⟩
  | reload now => exact h.load now ⟨rfl, rfl, rfl⟩
  | select now elapsed player => exact h.select now elapsed player
  | read => exact h.of_frame ⟨rfl, rfl, rfl⟩ ⟨rfl, rfl, rfl⟩ fun m hm => ⟨m, hm, rfl, rfl⟩

/-- A run keeps the agreement of the account with the answers. -/
theorem Accounted.run {e : Engine} {answers : List Answer} (h : e.Accounted answers)
    (actions : List Action) : (e.run actions).1.Accounted (answers ++ (e.run actions).2) :=
  run_induction Accounted (fun _ _ h a => h.act a) h actions

theorem accounted_fresh (source : RuleSource) (gates : List Gate) (strategy : Strategy)
    (draws : Draws) : (fresh source gates strategy draws).Accounted [] := by
  refine ⟨rfl, rfl, rfl, {}, ?_, rfl, rfl, rfl, Histogram.length_empty⟩
  show (Collector.ofService promotionsName).promotions = some {}
  rw [Collector.ofService, if_pos rfl]

/-- As many selections are answered as are asked for. -/
theorem countP_run (e : Engine) (actions : List Action) :
    (e.run actions).2.countP Answer.isSelection = actions.countP Action.isSelection := by
  induction actions generalizing e with
  | nil => rfl
  | cons a rest ih =>
    rw [run_cons, List.countP_cons, List.countP_cons, ih]
    cases a <;> rfl

/-- Every answer to a selection is a hit or a miss. -/
theorem countP_isSelection (answers : List Answer) :
    answers.countP Answer.isHit + answers.countP Answer.isMiss
      = answers.countP Answer.isSelection := by
  induction answers with
  | nil => rfl
  | cons ans rest ih =>
    rw [List.countP_cons, List.countP_cons, List.countP_cons, ← ih]
    rcases ans with _ | _ | _ | (_ | _) | _ <;>
      simp [Answer.isHit, Answer.isMiss, Answer.isSelection] <;> omega

/-- **The account of a run.**  After any actions on a new engine, its account says how many
selections were asked for, how many of them found a promotion and how many found none, and the
metrics of the service say the same. -/
theorem run_accounted (source : RuleSource) (gates : List Gate) (strategy : Strategy)
    (draws : Draws) (actions : List Action) :
    let e := ((fresh source gates strategy draws).run actions).1
    let answers := ((fresh source gates strategy draws).run actions).2
    e.snapshot.evaluations = actions.countP Action.isSelection ∧
    e.snapshot.hits = answers.countP Answer.isHit ∧
    e.snapshot.misses = answers.countP Answer.isMiss ∧
    e.snapshot.hits + e.snapshot.misses = e.snapshot.evaluations ∧
    ∃ m, e.activity.meters? = some m ∧
      m.selections.count true = e.snapshot.hits ∧
      m.selections.count false = e.snapshot.misses ∧
      m.durations.count = e.snapshot.evaluations := by
  intro e answers
  -- a new engine agrees with no answers, and every action keeps the agreement
  have h : e.Accounted answers := (accounted_fresh source gates strategy draws).run actions
  have hasked : answers.countP Answer.isSelection = actions.countP Action.isSelection :=
    countP_run _ actions
  have hsplit := countP_isSelection answers
  obtain ⟨m, hm, htrue, hfalse, hcount, -⟩ := h.metered
  have hev : e.snapshot.evaluations = answers.countP Answer.isSelection := h.evaluations
  have hhits : e.snapshot.hits = answers.countP Answer.isHit := h.hits
  have hmisses : e.snapshot.misses = answers.countP Answer.isMiss := h.misses
  refine ⟨hev.trans hasked, hhits, hmisses, ?_, m, hm, ?_, ?_, ?_⟩
  · rw [hhits, hmisses, hev, hsplit]
  · rw [htrue, hhits]
  · rw [hfalse, hmisses]
  · rw [hcount, hev]

end Engine
end OfferRules

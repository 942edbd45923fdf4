import OfferRules.Engine.Basic
import OfferRules.Proofs.Eligibility
import OfferRules.Proofs.JsonReading

/-!
# What a selection means

A selection ends in one of four ways: the value given is no data of a player, something fails,
no rule is eligible, or a rule is selected.  With the strategy that takes the first rule, and
gates that put no other rule in the place of the one they admit, each way is told by the value
and by the rules in force alone, and the log has one event that tells which way it was.

## Main definitions

* `Value.IsPlayer` — a value is the data of a player.
* `Notice.isOutcome`, `Selected.outcomes` — the events that tell how a selection ended.

## Main results

* `Engine.select_of_problem`, `Engine.select_of_ok`, `Engine.select_of_error` — how a selection
  follows from the choice of a rule.
* `Engine.choose_of_forall`, `Engine.choose_of_exists` — how the choice follows from the rules.
* `Engine.select_meaning` — **the meaning of a selection.**
-/

namespace OfferRules

open Traced

/-! ### Players -/

/-- A value is the data of a player: a mapping that says who the player is. -/
def Value.IsPlayer (x : Value) : Prop :=
  ∃ es id, x = .map es ∧ Entries.get? (.text "playerId") es = some id ∧ id ≠ .null

theorem playerProblem?_eq_none {x : Value} : playerProblem? x = none ↔ x.IsPlayer := by
  unfold playerProblem? Value.IsPlayer
  cases x with
  | map es =>
    cases hid : Entries.get? (.text "playerId") es with
    | none => simp [Value.isMap, playerId, Value.get?, hid, Value.isNull]
    | some id => simp [Value.isMap, playerId, Value.get?, hid, ← Value.isNull_iff]
  | atom a => simp [Value.isMap]
  | list items => simp [Value.isMap]
  | set members => simp [Value.isMap]
  | pair a b => simp [Value.isMap]

/-- The name of a player read from a JSON document can be written. -/
theorem isWritable_playerId_of_read? {ps : List CodePoint} {x : Value}
    (h : Json.read? ps = some x) :
    (playerId x).isWritable = true := by
  have hx := (Json.written_read? h).2
  unfold playerId
  cases x with
  | map es =>
    cases hid : Entries.get? (.text "playerId") es with
    | none => simp [Value.get?, hid, Value.isWritable, Atom.isWritable]
    | some id =>
      obtain ⟨k, hmem⟩ := Entries.mem_of_get? hid
      simpa [Value.get?, hid] using (Value.entriesWritable_iff.mp hx _ hmem).2
  | _ => rfl

/-! ### Events -/

/-- Whether a notice tells how a selection ended. -/
def Notice.isOutcome : Notice → Bool
  | .selected _ _ | .noMatch _ | .invalidPlayer _ _ | .selectionFailed _ _ => true
  | _ => false

/-- The notices that tell how a selection ended. -/
def Selected.outcomes (s : Selected) : List Notice := s.notices.filter Notice.isOutcome

theorem Notice.isOutcome_of_ofRule {n : Notice} (h : n.ofRule = true) : n.isOutcome = false := by
  cases n <;> simp_all [Notice.ofRule, Notice.isOutcome]

/-- Of notices of conditions and gates followed by an outcome, the outcome is the only one. -/
theorem filter_isOutcome_append {ns : List Notice} (h : ∀ n ∈ ns, n.ofRule = true) {n : Notice}
    (hn : n.isOutcome = true) : (ns ++ [n]).filter Notice.isOutcome = [n] := by
  have hns : ns.filter Notice.isOutcome = [] := by
    rw [List.filter_eq_nil_iff]
    intro m hm
    simp [Notice.isOutcome_of_ofRule (h m hm)]
  rw [List.filter_append, hns]
  simp [hn]

namespace Engine

variable {e : Engine} {now : DateTime} {player : Value}

/-! ### From the choice to the selection -/

theorem select_of_problem (elapsed : Magnitude) {problem : PlayerProblem}
    (h : playerProblem? player = some problem) :
    e.select now elapsed player =
      { engine := e.record false elapsed
        promotion := none
        notices := [.invalidPlayer problem.message problem.details] } := by
  simp only [select, h]

theorem select_of_ok (elapsed : Magnitude) (h : playerProblem? player = none) {c : Choice}
    (hc : (e.choose now player).outcome = .ok c) :
    e.select now elapsed player =
      { engine := { e.record c.rule.isSome elapsed with draws := c.draws }
        promotion := c.rule.map (·.payload now)
        notices := (e.choose now player).notices ++ [e.choiceNotice c] } := by
  simp only [select, h, hc]

theorem select_of_error (elapsed : Magnitude) (h : playerProblem? player = none) {f : Fault}
    (hc : (e.choose now player).outcome = .error f) :
    e.select now elapsed player =
      { engine := e.record false elapsed
        promotion := none
        notices := (e.choose now player).notices ++
          [.selectionFailed Refusal.Kind.internal.code f.message] } := by
  simp only [select, h, hc]

/-- A selection touches nothing of the rules but their account, into which it is entered once, by
what it answers. -/
theorem select_store (e : Engine) (now : DateTime) (elapsed : Magnitude) (x : Value) :
    (e.select now elapsed x).engine.store = { e.store with
      activity :=
        e.activity.record (e.select now elapsed x).promotion.isSome (.finite false elapsed) } := by
  cases h : playerProblem? x with
  | some problem => rw [select_of_problem elapsed h]; rfl
  | none =>
    cases hc : (e.choose now x).outcome with
    | ok c =>
      rw [select_of_ok elapsed h hc, Option.isSome_map]
      rfl
    | error f => rw [select_of_error elapsed h hc]; rfl

/-- A selection leaves the rules in force as they are. -/
theorem select_rules (e : Engine) (now : DateTime) (elapsed : Magnitude) (x : Value) :
    (e.select now elapsed x).engine.rules = e.rules := by
  rw [rules, select_store]
  rfl

/-! ### From the rules to the choice -/

/-- The notices given on the way to a choice are those of conditions and gates. -/
theorem says_choose (e : Engine) (now : DateTime) (player : Value) :
    Says (fun n => n.ofRule) (e.choose now player) :=
  says_bind (says_ofExcept _) fun _ => says_bind (says_eligibleRules e.rules) fun _ =>
    says_bind (says_ofExcept _) fun _ => says_pure _

/-- A player who has no display makes every choice fail. -/
theorem choose_of_not_isWritable (h : (playerId player).isWritable = false) :
    (e.choose now player).outcome = .error .longInteger := by
  refine bind_outcome_eq_error.mpr (Or.inl ?_)
  simp [Value.display?, h]

theorem display?_of_isWritable {v : Value} (h : v.isWritable = true) :
    v.display? = .ok v.display := by
  simp [Value.display?, h]

/-- A rule that fails makes the choice fail, wherever it stands among the rules. -/
theorem choose_of_exists (hw : (playerId player).isWritable = true)
    (h : ∃ r ∈ e.rules, r.Fails e.gates now player) :
    ∃ r ∈ e.rules, ∃ f, (r.candidate e.gates now player).outcome = .error f ∧
      (e.choose now player).outcome = .error f := by
  obtain ⟨r, hr, f, hf, hlist⟩ := eligibleRules_of_exists h
  refine ⟨r, hr, f, hf, ?_⟩
  refine bind_outcome_eq_error.mpr (Or.inr ⟨_, display?_of_isWritable hw, ?_⟩)
  exact bind_outcome_eq_error.mpr (Or.inl hlist)

/-- Where no rule fails, the strategy chooses among what is left of the rules. -/
theorem choose_of_forall (hw : (playerId player).isWritable = true)
    (h : ∀ r ∈ e.rules, ¬ r.Fails e.gates now player) {rule : Option Rule} {draws : Draws}
    (hs : e.strategy.select (e.rules.filterMap (Rule.left? e.gates now player)) e.draws player
      = .ok (rule, draws)) :
    (e.choose now player).outcome = .ok
      { rule, eligible := (e.rules.filterMap (Rule.left? e.gates now player)).length, draws } := by
  refine bind_outcome_eq_ok.mpr ⟨_, display?_of_isWritable hw, ?_⟩
  refine bind_outcome_eq_ok.mpr ⟨_, eligibleRules_of_forall h, ?_⟩
  exact bind_outcome_eq_ok.mpr ⟨_, hs, rfl⟩

/-- The strategy that takes the first rule takes the first eligible one. -/
theorem choose_first (hs : e.strategy = .priority) (hg : ∀ g ∈ e.gates, g.Keeps)
    (hw : (playerId player).isWritable = true)
    (h : ∀ r ∈ e.rules, ¬ r.Fails e.gates now player) :
    (e.choose now player).outcome = .ok
      { rule := e.rules.find? (Rule.isEligible e.gates now player)
        eligible := e.rules.countP (Rule.isEligible e.gates now player)
        draws := e.draws } := by
  have hfirst : e.strategy.select (e.rules.filterMap (Rule.left? e.gates now player)) e.draws player
      = .ok (e.rules.find? (Rule.isEligible e.gates now player), e.draws) := by
    rw [hs, filterMap_left? hg, ← List.head?_filter]
    rfl
  rw [choose_of_forall hw h hfirst, filterMap_left? hg, List.countP_eq_length_filter]

end Engine

/-! ### The payload -/

theorem Rule.payload_ruleId (r : Rule) (now : DateTime) :
    Entries.get? (.text "ruleId") (r.payload now) = some (.text r.id) := by
  rw [Rule.payload, Entries.get?_insert_of_ne (by decide), Entries.get?_insert_self]

/-- Whether an entry of a payload is one of the promotion of its rule. -/
def ofPromotion (p : Atom × Value) : Bool :=
  Entries.otherKey "ruleId" p && Entries.otherKey "selectedAt" p

theorem Rule.payload_filter (r : Rule) (now : DateTime) :
    (r.payload now).filter ofPromotion = r.promotion.filter ofPromotion := by
  have hsplit (es : Entries) : es.filter ofPromotion
      = (es.filter (Entries.otherKey "selectedAt")).filter (Entries.otherKey "ruleId") := by
    rw [List.filter_filter]
    rfl
  rw [hsplit, Rule.payload, Entries.filter_insert, List.filter_comm, Entries.filter_insert,
    List.filter_comm, ← hsplit]

/-! ### The meaning of a selection -/

/-- **The meaning of a selection** with the strategy that takes the first rule and gates that put
no other rule in the place of the one they admit.  Data of no player find nothing, and no rule is
evaluated.  A rule that fails, wherever it stands, leaves the player without a promotion, and so
does a name that cannot be written to the log, which no JSON document gives.  Otherwise the first
rule whose conditions hold and that every gate admits gives its promotion under its name. -/
theorem Engine.select_meaning (e : Engine) (hs : e.strategy = .priority)
    (hg : ∀ g ∈ e.gates, g.Keeps) (now : DateTime) (elapsed : Magnitude) (x : Value) :
    (e.select now elapsed x).engine.rules = e.rules ∧
    (¬ x.IsPlayer → ∃ problem, playerProblem? x = some problem ∧
      (e.select now elapsed x).promotion = none ∧
      (e.select now elapsed x).notices = [.invalidPlayer problem.message problem.details]) ∧
    (∀ ps, Json.read? ps = some x → (playerId x).isWritable = true) ∧
    (x.IsPlayer → (playerId x).isWritable = false →
      (e.select now elapsed x).promotion = none ∧
      (e.select now elapsed x).outcomes
        = [.selectionFailed "INTERNAL_ERROR" Fault.longInteger.message]) ∧
    (x.IsPlayer → (playerId x).isWritable = true →
      (∃ r ∈ e.rules, r.Fails e.gates now x) →
      (e.select now elapsed x).promotion = none ∧
      ∃ r ∈ e.rules, ∃ f, (r.candidate e.gates now x).outcome = .error f ∧
        (e.select now elapsed x).outcomes = [.selectionFailed "INTERNAL_ERROR" f.message]) ∧
    (x.IsPlayer → (playerId x).isWritable = true →
      (∀ r ∈ e.rules, ¬ r.Fails e.gates now x) →
      (e.rules.find? (Rule.isEligible e.gates now x) = none →
        (e.select now elapsed x).promotion = none ∧
        (e.select now elapsed x).outcomes = [.noMatch e.rules.length]) ∧
      ∀ r, e.rules.find? (Rule.isEligible e.gates now x) = some r →
        ∃ payload, (e.select now elapsed x).promotion = some payload ∧
          Entries.get? (.text "ruleId") payload = some (.text r.id) ∧
          payload.filter ofPromotion = r.promotion.filter ofPromotion ∧
          (e.select now elapsed x).outcomes
            = [.selected r.id (e.rules.countP (Rule.isEligible e.gates now x))]) := by
  have hsays := Engine.says_choose e now x
  refine ⟨Engine.select_rules e now elapsed x, ?_, fun ps => isWritable_playerId_of_read?, ?_, ?_,
    ?_⟩
  · intro hx
    rw [← playerProblem?_eq_none] at hx
    obtain ⟨problem, hp⟩ := Option.ne_none_iff_exists'.mp hx
    rw [Engine.select_of_problem elapsed hp]
    exact ⟨problem, hp, rfl, rfl⟩
  · intro hx hw
    rw [Selected.outcomes, Engine.select_of_error elapsed (playerProblem?_eq_none.mpr hx)
      (Engine.choose_of_not_isWritable hw)]
    exact ⟨rfl, filter_isOutcome_append hsays rfl⟩
  · intro hx hw hfail
    obtain ⟨r, hr, f, hf, hc⟩ := Engine.choose_of_exists hw hfail
    rw [Selected.outcomes, Engine.select_of_error elapsed (playerProblem?_eq_none.mpr hx) hc]
    exact ⟨rfl, r, hr, f, hf, filter_isOutcome_append hsays rfl⟩
  · intro hx hw hok
    have hsel := Engine.select_of_ok elapsed (playerProblem?_eq_none.mpr hx)
      (Engine.choose_first hs hg hw hok)
    -- the choice is the first eligible rule, so the two ways are told apart by finding one
    constructor
    · intro hfind
      rw [hfind] at hsel
      rw [Selected.outcomes, hsel]
      exact ⟨rfl, filter_isOutcome_append hsays rfl⟩
    · intro r hfind
      rw [hfind] at hsel
      rw [Selected.outcomes, hsel]
      exact ⟨r.payload now, rfl, r.payload_ruleId now, r.payload_filter now,
        filter_isOutcome_append hsays rfl⟩

/-- Noon of a day. -/
def Sample.noon : DateTime := ⟨⟨2025, 1, 1⟩, 12, 0, 0, 0, some 0⟩

/-- A player of the fourth level. -/
def Sample.fourth : Value := .record [("playerId", .text "p"), ("level", .int 4)]

/-- An engine with a rule for players of the fifth level, one that is over, and one for all. -/
def Sample.engine : Engine :=
  { store :=
      { source := .document .null
        rules := [
          { id := "fifth", priority := 9
            conditions := [{ field := "level", operator := "eq", value := .int 5 }] },
          { id := "over", priority := 5
            window := some { finish := some ⟨⟨2024, 12, 31⟩, 12, 0, 0, 0, none⟩ } },
          { id := "daily", promotion := [(.text "amount", .int 10), (.text "ruleId", .null)] }] }
    gates := [.window .running, .buckets 10 Gate.bucketsKey]
    draws := { draw := fun _ => .zero } }

/-- A player of the fourth level finds the rule for all, under its own name. -/
theorem Engine.select_meaning_daily :
    Sample.engine.strategy = .priority ∧ (∀ g ∈ Sample.engine.gates, g.Keeps) ∧
      ∃ payload, (Sample.engine.select Sample.noon .zero Sample.fourth).promotion = some payload ∧
        Entries.get? (.text "ruleId") payload = some (.text "daily") := by
  have hg : ∀ g ∈ Sample.engine.gates, g.Keeps := by
    intro g hg
    rcases List.mem_pair.mp hg with rfl | rfl <;> exact Gate.keeps_of_ne_outside (by nofun)
  obtain ⟨-, -, -, -, -, hfound⟩ := Engine.select_meaning Sample.engine rfl hg Sample.noon .zero
    Sample.fourth
  have hid : (Sample.engine.rules.find? (Rule.isEligible Sample.engine.gates Sample.noon
      Sample.fourth)).map Rule.id = some "daily" := by decide +kernel
  obtain ⟨r, hr, hname⟩ := Option.map_eq_some_iff.mp hid
  obtain ⟨payload, hp, hget, -⟩ := (hfound (playerProblem?_eq_none.mp (by decide +kernel))
    (by decide +kernel) (by decide +kernel)).2 r hr
  exact ⟨rfl, hg, payload, hp, by rw [hget, hname]⟩

end OfferRules

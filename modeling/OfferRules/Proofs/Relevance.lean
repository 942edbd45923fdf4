import OfferRules.Proofs.Isolation
import OfferRules.Proofs.Lots

/-!
# Which attributes of a player matter

A condition looks at a player along its path only, whose first segment is the name of an attribute,
and the gates of the library look at the name of the player.  So two players who agree on these
attributes are told apart by nothing that an engine does.

## Main definitions

* `attributeOf` — the attribute that a path begins with.
* `Engine.attributes` — the attributes that an engine looks at.
* `Value.AgreeOn` — two mappings have the same values under some keys.

## Main results

* `Value.resolve_of_agreeOn` — a path leads to the same in mappings that agree where it begins.
* `Gate.apply_of_agreeOn`, `Rule.candidate_of_agreeOn` — gates and rules see two such players
  alike.
* `Engine.choose_of_agreeOn` — so does the choice of a rule, with its notices.
* `Engine.select_of_agreeOn` — **attributes that no rule mentions are irrelevant.**
-/

namespace OfferRules

open Traced

variable {p q : Value} {keys : List Text}

/-! ### Paths -/

/-- The attribute that a path begins with: what stands before its first dot. -/
def attributeOf (path : Text) : Text := .ofPoints ((splitDots path.points).headD [])

/-- Two mappings have the same values under some keys, or both none. -/
def Value.AgreeOn (keys : List Text) (p q : Value) : Prop :=
  p.isMap = true ∧ q.isMap = true ∧ ∀ key ∈ keys, p.get? key = q.get? key

theorem Value.AgreeOn.mono {keys' : List Text} (h : AgreeOn keys p q)
    (hsub : ∀ key ∈ keys', key ∈ keys) : AgreeOn keys' p q :=
  ⟨h.1, h.2.1, fun key hkey => h.2.2 key (hsub key hkey)⟩

theorem splitDots_ne_nil (ps : List CodePoint) : splitDots ps ≠ [] := by
  cases ps with
  | nil => exact nofun
  | cons p rest =>
    unfold splitDots
    split
    · exact nofun
    · split <;> exact nofun

theorem Value.child_of_isMap {v : Value} (h : v.isMap = true) (segment : List CodePoint) :
    v.child segment = .ok (v.get? (.ofPoints segment)) := by
  cases v with
  | map entries => rfl
  | _ => exact nomatch h

/-- A path leads to the same in two mappings that agree on the attribute it begins with. -/
theorem Value.resolve_of_agreeOn {path : Text} (h : AgreeOn keys p q)
    (hpath : attributeOf path ∈ keys) : p.resolve path = q.resolve path := by
  have hget := h.2.2 _ hpath
  unfold attributeOf at hget
  unfold resolve
  cases hsegments : splitDots path.points with
  | nil => exact absurd hsegments (splitDots_ne_nil _)
  | cons segment rest =>
    rw [hsegments, List.headD_cons] at hget
    rw [follow_cons, follow_cons, child_of_isMap h.1, child_of_isMap h.2.1, hget]

/-! ### Conditions and gates -/

/-- A condition sees of a player only what its path leads to. -/
theorem Condition.evaluate_of_resolve {c : Condition} (h : p.resolve c.field = q.resolve c.field) :
    c.evaluate p = c.evaluate q := by
  rw [evaluate, evaluate, h]

theorem Rule.matchesPlayer_of_agreeOn {r : Rule} (h : Value.AgreeOn keys p q)
    (hr : ∀ c ∈ r.conditions, attributeOf c.field ∈ keys) :
    r.matchesPlayer p = r.matchesPlayer q := by
  have hconditions : ∀ c ∈ r.conditions, c.evaluate p = c.evaluate q := by
    intro c hc
    exact Condition.evaluate_of_resolve (Value.resolve_of_agreeOn h (hr c hc))
  unfold matchesPlayer
  rw [allHold_congr hconditions, anyHolds_congr hconditions]

/-- A gate of the library that looks at no running clock sees of a player only the name. -/
theorem Gate.apply_of_agreeOn {g : Gate} (hg : g.isStanding = true)
    (h : Value.AgreeOn ["playerId"] p q) (now now' : DateTime) (r : Rule) :
    g.apply now r p = g.apply now' r q := by
  have hid : p.get? "playerId" = q.get? "playerId" := h.2.2 _ List.mem_cons_self
  rw [apply_of_isStanding hg now now']
  cases g with
  | window clock => rfl
  | pass => rfl
  | reject ids => rfl
  | buckets count key pos digest =>
    show (do return if ← admits now' r p (.buckets count key pos digest) then some r else none)
      = (do return if ← admits now' r q (.buckets count key pos digest) then some r else none)
    unfold admits
    rw [hid]
  | outside hook => exact nomatch hg

variable {gates : List Gate} {now now' : DateTime}

theorem Rule.candidate_of_agreeOn {r : Rule} (hg : ∀ g ∈ gates, g.isStanding = true)
    (h : Value.AgreeOn keys p q) (hid : ("playerId" : Text) ∈ keys)
    (hr : ∀ c ∈ r.conditions, attributeOf c.field ∈ keys) :
    r.candidate gates now p = r.candidate gates now' q := by
  have hname : Value.AgreeOn ["playerId"] p q := h.mono (by simpa using hid)
  unfold Rule.candidate
  rw [Rule.matchesPlayer_of_agreeOn h hr, Rule.passGates_congr fun g hmem r =>
    Gate.apply_of_agreeOn (hg g hmem) hname now now' r]

theorem eligibleRules_of_agreeOn {rs : List Rule} (hg : ∀ g ∈ gates, g.isStanding = true)
    (h : Value.AgreeOn keys p q) (hid : ("playerId" : Text) ∈ keys)
    (hrs : ∀ r ∈ rs, ∀ c ∈ r.conditions, attributeOf c.field ∈ keys) :
    eligibleRules gates now p rs = eligibleRules gates now' q rs := by
  induction rs with
  | nil => rfl
  | cons r rest ih =>
    rw [List.forall_mem_cons] at hrs
    rw [eligibleRules_cons, eligibleRules_cons, ih hrs.2,
      Rule.candidate_of_agreeOn hg h hid hrs.1]

/-! ### Selections -/

theorem playerId_of_agreeOn (h : Value.AgreeOn keys p q) (hid : ("playerId" : Text) ∈ keys) :
    playerId p = playerId q :=
  congrArg (Option.getD · Value.null) (h.2.2 _ hid)

theorem playerProblem?_of_agreeOn (h : Value.AgreeOn keys p q) (hid : ("playerId" : Text) ∈ keys) :
    playerProblem? p = playerProblem? q := by
  unfold playerProblem?
  rw [h.1, h.2.1, playerId_of_agreeOn h hid]
  rfl

/-- The strategies of the library do not look at the player. -/
theorem Strategy.select_player {s : Strategy} (hs : ∀ title choose, s ≠ .outside title choose)
    (eligible : List Rule) (draws : Draws) (p q : Value) :
    s.select eligible draws p = s.select eligible draws q := by
  cases s with
  | priority => rfl
  | weighted => rfl
  | outside title choose => exact absurd rfl (hs title choose)

namespace Engine

/-- The attributes of a player that an engine looks at: the name, and those that the conditions of
the rules in force begin with. -/
def attributes (e : Engine) : List Text :=
  "playerId" :: e.rules.flatMap fun r => r.conditions.map fun c => attributeOf c.field

theorem playerId_mem_attributes (e : Engine) : ("playerId" : Text) ∈ e.attributes :=
  List.mem_cons_self

theorem attributeOf_mem_attributes {e : Engine} {r : Rule} {c : Condition} (hr : r ∈ e.rules)
    (hc : c ∈ r.conditions) : attributeOf c.field ∈ e.attributes :=
  List.mem_cons_of_mem _ (List.mem_flatMap.mpr ⟨r, hr, List.mem_map_of_mem hc⟩)

variable {e : Engine}

/-- Two players who agree on the attributes that an engine looks at get the same choice, with the
same notices on the way. -/
theorem choose_of_agreeOn (hg : ∀ g ∈ e.gates, g.isStanding = true)
    (hs : ∀ title choose, e.strategy ≠ .outside title choose)
    (h : Value.AgreeOn e.attributes p q) : e.choose now p = e.choose now' q := by
  have hid := playerId_of_agreeOn h e.playerId_mem_attributes
  have heligible : eligibleRules e.gates now p e.rules = eligibleRules e.gates now' q e.rules :=
    eligibleRules_of_agreeOn hg h e.playerId_mem_attributes fun r hr c hc =>
      attributeOf_mem_attributes hr hc
  unfold choose
  rw [hid, heligible]
  simp only [Strategy.select_player hs _ _ p q]

/-- Without the entry for the time, what a player gets of a rule does not depend on the time. -/
theorem filter_selectedAt_payload (now now' : DateTime) :
    (List.filter (Entries.otherKey "selectedAt") ∘ fun r : Rule => r.payload now)
      = List.filter (Entries.otherKey "selectedAt") ∘ fun r : Rule => r.payload now' := by
  funext r
  rw [Function.comp_apply, Function.comp_apply, Rule.payload, Rule.payload, Entries.filter_insert,
    Entries.filter_insert]

/-- **Attributes that no rule mentions are irrelevant.**  The gates are those of the library that
look at no running clock, and the strategy is one of the library.  Two players who agree on the
name and on each attribute that a condition in force begins with get the same promotion, but for
the time under which it is selected; the notices are the same, and so are the draws that are
left. -/
theorem select_of_agreeOn (e : Engine) (hg : ∀ g ∈ e.gates, g.isStanding = true)
    (hs : ∀ title choose, e.strategy ≠ .outside title choose)
    (h : Value.AgreeOn e.attributes p q) (now now' : DateTime) (elapsed elapsed' : Magnitude) :
    (e.select now elapsed p).promotion.map (List.filter (Entries.otherKey "selectedAt"))
      = (e.select now' elapsed' q).promotion.map (List.filter (Entries.otherKey "selectedAt")) ∧
    (e.select now elapsed p).notices = (e.select now' elapsed' q).notices ∧
    (e.select now elapsed p).engine.draws = (e.select now' elapsed' q).engine.draws := by
  have hproblem := playerProblem?_of_agreeOn h e.playerId_mem_attributes
  cases hp : playerProblem? q with
  | some problem =>
    rw [hp] at hproblem
    rw [select_of_problem elapsed hproblem, select_of_problem elapsed' hp]
    exact ⟨rfl, rfl, rfl⟩
  | none =>
    rw [hp] at hproblem
    have hchoose : e.choose now p = e.choose now' q := choose_of_agreeOn hg hs h
    cases hc : (e.choose now' q).outcome with
    | ok c =>
      have hc' : (e.choose now p).outcome = .ok c := by rw [hchoose, hc]
      rw [select_of_ok elapsed hproblem hc', select_of_ok elapsed' hp hc, hchoose]
      refine ⟨?_, rfl, rfl⟩
      rw [Option.map_map, Option.map_map, filter_selectedAt_payload now now']
    | error f =>
      have hc' : (e.choose now p).outcome = .error f := by rw [hchoose, hc]
      rw [select_of_error elapsed hproblem hc', select_of_error elapsed' hp hc, hchoose]
      exact ⟨rfl, rfl, rfl⟩

end Engine

namespace Sample

/-- An engine with a rule for players whose profile has a tier, with lots drawn. -/
def tiered : Engine :=
  { store :=
      { source := .document .null
        rules := [
          { id := "gold"
            conditions := [{ field := "profile.tier", operator := "eq", value := .text "gold" }] },
          { id := "daily", weight := some (.double (.ofNat 2)) }] }
    gates := [.window (.fixed noon), .reject ["weekly"], .buckets 20 Gate.bucketsKey]
    strategy := .weighted
    draws := lowest }

/-- A player of a tier with further attributes. -/
def golden (attributes : List (String × Value)) : Value :=
  .record ([("playerId", .text "p"), ("profile", .record [("tier", .text "gold")])] ++ attributes)

end Sample

/-- Two players of one tier, who differ in level and country, are not told apart. -/
theorem Engine.select_of_agreeOn_golden :
    Value.AgreeOn Sample.tiered.attributes (Sample.golden [("level", .int 4)])
      (Sample.golden [("level", .int 5), ("country", .text "FR")]) ∧
    (Sample.tiered.select Sample.noon .zero (Sample.golden [("level", .int 4)])).notices
      = (Sample.tiered.select Sample.noon .zero
        (Sample.golden [("level", .int 5), ("country", .text "FR")])).notices := by
  have hagree : Value.AgreeOn Sample.tiered.attributes (Sample.golden [("level", .int 4)])
      (Sample.golden [("level", .int 5), ("country", .text "FR")]) := by
    have hkeys : Sample.tiered.attributes = ["playerId", "profile"] := by decide +kernel
    refine ⟨rfl, rfl, ?_⟩
    rw [hkeys]
    intro key hkey
    rcases List.mem_pair.mp hkey with rfl | rfl <;> rfl
  have hg : ∀ g ∈ Sample.tiered.gates, g.isStanding = true := by decide
  obtain ⟨-, hnotices, -⟩ := Engine.select_of_agreeOn Sample.tiered hg (by nofun) hagree
    Sample.noon Sample.noon .zero .zero
  exact ⟨hagree, hnotices⟩

end OfferRules

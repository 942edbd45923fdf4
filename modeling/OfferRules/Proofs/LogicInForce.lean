import OfferRules.Proofs.Documents
import OfferRules.Proofs.Eligibility
import OfferRules.Proofs.StableOrder

/-!
# The logic that a document writes

A logic that does not exist holds for nobody: a rule with conditions that it combines is passed
over, whatever the gates do, and the eligible rules are those of the other rules.  The empty text
does not count as such a logic, but as none, so its conditions must all hold.

## Main definitions

* `Gate.KeepsNames` — what a gate makes of a rule has the name of the rule.

## Main results

* `RuleDefinition.fields_eq_ok` — what a rule is read from.
* `eligibleRules_append_cons` — a rule that holds for nobody is passed over.
* `sublist_eligibleRules` — the names of the eligible rules, where gates keep them.
* `RuleSet.parse_logic` — **a rule whose logic does not exist.**
-/

namespace OfferRules

open Traced

variable {gates : List Gate} {now : DateTime} {player : Value}

/-! ### What a rule is read from -/

/-- A rule is read exactly when each of its entries is. -/
theorem RuleDefinition.fields_eq_ok {es : Entries} {r : Rule} :
    RuleDefinition.fields es = .ok r ↔
      ∃ id priority logic conditions window promotion weight,
        Field.required ["id"] (readText true) es = .ok id ∧
        Field.optional ["priority"] (some 0) (readNullable readNumber) es = .ok priority ∧
        Field.optional ["logic"] none (readNullable (readText true)) es = .ok logic ∧
        Field.optional ["conditions"] none (readNullable (readList ConditionDefinition.read)) es
          = .ok conditions ∧
        Field.optional windowNames none (readNullable TimeWindowDefinition.read) es
          = .ok window ∧
        Field.optional ["promotion"] none (readNullable Promotion.read) es = .ok promotion ∧
        Field.optional ["weight"] none (readNullable readDouble) es = .ok weight ∧
        { id
          priority := priorityInForce priority
          logic := logicInForce logic
          conditions := conditions.getD []
          window
          promotion := promotion.getD []
          weight := weight.map .double } = r := by
  simp only [fields, Checked.ap_eq_ok, map_eq_ok]
  constructor
  · rintro ⟨_, weight, ⟨_, promotion, ⟨_, window, ⟨_, conditions, ⟨_, logic, ⟨_, priority,
      ⟨id, hid, rfl⟩, hpriority, rfl⟩, hlogic, rfl⟩, hconditions, rfl⟩, hwindow, rfl⟩,
      hpromotion, rfl⟩, hweight, hr⟩
    exact ⟨id, priority, logic, conditions, window, promotion, weight, hid, hpriority, hlogic,
      hconditions, hwindow, hpromotion, hweight, hr⟩
  · rintro ⟨id, priority, logic, conditions, window, promotion, weight, hid, hpriority, hlogic,
      hconditions, hwindow, hpromotion, hweight, hr⟩
    exact ⟨_, weight, ⟨_, promotion, ⟨_, window, ⟨_, conditions, ⟨_, logic, ⟨_, priority,
      ⟨id, hid, rfl⟩, hpriority, rfl⟩, hlogic, rfl⟩, hconditions, rfl⟩, hwindow, rfl⟩,
      hpromotion, rfl⟩, hweight, hr⟩

/-- The logic of a rule that writes one. -/
theorem RuleDefinition.logic_of_fields {es : Entries} {r : Rule} {s : Text}
    (h : fields es = .ok r) (hs : Entries.get? (.text "logic") es = some (.text s)) :
    r.logic = if s = "" then ("AND" : Text) else s := by
  obtain ⟨_, _, logic, _, _, _, _, -, -, hlogic, -, -, -, -, rfl⟩ := fields_eq_ok.mp h
  obtain ⟨s', hs', rfl⟩ := (readNullable_eq_ok rfl).mp ((Field.optional_eq_ok hs).mp hlogic)
  obtain rfl : s = s' := Except.ok.inj hs'
  rfl

/-- The conditions of a rule that writes some. -/
theorem RuleDefinition.conditions_of_fields {es : Entries} {r : Rule} {cs : List Value}
    (h : fields es = .ok r)
    (hcs : (Entries.get? (.text "conditions") es).bind Value.items? = some cs) :
    cs.map ConditionDefinition.read = r.conditions.map .ok := by
  obtain ⟨_, _, _, conditions, _, _, _, -, -, -, hconditions, -, -, -, rfl⟩ := fields_eq_ok.mp h
  obtain ⟨v, hv, hitems⟩ := Option.bind_eq_some_iff.mp hcs
  have hnull : v.isNull = false := by
    cases v with
    | atom a => exact nomatch hitems
    | list vs => rfl
    | map es => rfl
    | set as => rfl
    | pair a b => rfl
  obtain ⟨as, has, rfl⟩ := (readNullable_eq_ok hnull).mp ((Field.optional_eq_ok hv).mp hconditions)
  rw [readList_of_items? hitems, Checked.items_eq_ok] at has
  exact has

/-! ### Rules that hold for nobody -/

/-- A logic that does not exist holds for nobody. -/
theorem Rule.matchesPlayer_of_logic {r : Rule} (hconditions : r.conditions ≠ [])
    (hand : r.logic ≠ "AND") (hor : r.logic ≠ "OR") (player : Value) :
    r.matchesPlayer player = Pure.pure false := by
  rw [matchesPlayer, if_neg (by simpa using hconditions)]
  simp only [Logic.named?, if_neg hand, if_neg hor]

/-- Under the logic of all conditions, they must all hold. -/
theorem Rule.matchesPlayer_of_and {r : Rule} (hand : r.logic = "AND") (player : Value) :
    r.matchesPlayer player = Traced.allHold (·.evaluate player) r.conditions := by
  unfold matchesPlayer
  rw [hand]
  cases r.conditions <;> rfl

theorem Rule.candidate_of_matchesPlayer {r : Rule} (h : r.matchesPlayer player = Pure.pure false) :
    r.candidate gates now player = Pure.pure none := by
  rw [candidate, h, pure_bind_eq, if_neg Bool.false_ne_true]

/-- A rule that holds for nobody is passed over. -/
theorem eligibleRules_append_cons {r : Rule} (h : r.matchesPlayer player = Pure.pure false)
    (first last : List Rule) :
    eligibleRules gates now player (first ++ r :: last)
      = eligibleRules gates now player (first ++ last) := by
  induction first with
  | nil =>
    rw [List.nil_append, List.nil_append, eligibleRules_cons,
      Rule.candidate_of_matchesPlayer h, pure_bind_eq]
    exact bind_pure_eq _
  | cons r' rest ih =>
    rw [List.cons_append, List.cons_append, eligibleRules_cons, eligibleRules_cons, ih]

/-! ### Gates that keep names -/

/-- What a gate makes of a rule has the name of the rule. -/
def Gate.KeepsNames (g : Gate) : Prop :=
  ∀ (now : DateTime) (player : Value) (r r' : Rule),
    (g.apply now r player).outcome = .ok (some r') → r'.id = r.id

theorem Gate.Keeps.keepsNames {g : Gate} (h : g.Keeps) : g.KeepsNames := by
  intro now player r r' hr
  rw [h now player r r' hr]

theorem Rule.id_of_passGates (hg : ∀ g ∈ gates, g.KeepsNames) {r r' : Rule}
    (h : (Rule.passGates now player gates r).outcome = .ok (some r')) : r'.id = r.id := by
  induction gates generalizing r with
  | nil =>
    obtain rfl := Option.some.inj (Except.ok.inj h)
    rfl
  | cons g rest ih =>
    rw [List.forall_mem_cons] at hg
    rw [Rule.passGates_cons, bind_outcome_eq_ok] at h
    obtain ⟨c, hc, hrest⟩ := h
    cases c with
    | some next => rw [ih hg.2 hrest, hg.1 now player r next hc]
    | none => exact nomatch hrest

theorem Rule.id_of_candidate (hg : ∀ g ∈ gates, g.KeepsNames) {r r' : Rule}
    (h : (r.candidate gates now player).outcome = .ok (some r')) : r'.id = r.id := by
  obtain ⟨b, -, hb⟩ := bind_outcome_eq_ok.mp h
  cases b with
  | true => exact Rule.id_of_passGates hg hb
  | false => exact nomatch hb

/-- Where gates keep names, the eligible rules have names of the rules, in their order. -/
theorem sublist_eligibleRules (hg : ∀ g ∈ gates, g.KeepsNames) {rs out : List Rule}
    (h : (eligibleRules gates now player rs).outcome = .ok out) :
    (out.map Rule.id).Sublist (rs.map Rule.id) := by
  induction rs generalizing out with
  | nil =>
    obtain rfl := Except.ok.inj h
    exact List.nil_sublist _
  | cons r rest ih =>
    rw [eligibleRules_cons, bind_outcome_eq_ok] at h
    obtain ⟨here, hhere, h⟩ := h
    obtain ⟨others, hothers, h⟩ := bind_outcome_eq_ok.mp h
    obtain rfl : here.toList ++ others = out := Except.ok.inj h
    cases here with
    | none => exact (ih hothers).cons r.id
    | some r' =>
      have hid : r'.id = r.id := Rule.id_of_candidate hg hhere
      simpa [hid] using ih hothers

/-! ### Documents -/

namespace RuleSet

/-- Each entry of a document has its rule among those of the document, and no other rule has the
name of that one. -/
theorem exists_rule_of_entry {doc entry : Value} {rs : List Rule} {vs : List Value}
    (h : parse doc = .ok rs) (hvs : entries? doc = some vs) (hentry : entry ∈ vs) :
    ∃ first r last, rs = first ++ r :: last ∧ RuleDefinition.read entry = .ok r ∧
      r.id ∉ (first ++ last).map Rule.id := by
  obtain ⟨es, vs', rfl, hvs'⟩ := entries?_of_parse h
  obtain rfl : vs = vs' := Option.some.inj (hvs.symm.trans hvs')
  obtain ⟨rules, hrules, hids, rfl⟩ := (parse_eq_ok hvs).mp h
  have hmem : RuleDefinition.read entry ∈ rules.map .ok := hrules ▸ List.mem_map_of_mem hentry
  obtain ⟨r, hr, hread⟩ := List.mem_map.mp hmem
  obtain ⟨first, last, hsplit⟩ :=
    List.append_of_mem ((perm_byPriority rules).mem_iff.mpr hr)
  have hnodup : ((byPriority rules).map Rule.id).Nodup :=
    (((perm_byPriority rules).map Rule.id).nodup_iff).mpr hids
  rw [hsplit, List.map_append, List.map_cons, List.nodup_middle, List.nodup_cons,
    ← List.map_append] at hnodup
  exact ⟨first, r, last, hsplit, hread.symm, hnodup.1⟩

/-- **A rule whose logic does not exist.**  An entry writes conditions, and a logic that is neither
that of all conditions nor that of one.  Its rule is passed over for every player and whatever the
gates do, so where they keep names, none of the eligible rules has its name.  Only the empty text
counts as none: then the conditions must all hold. -/
theorem parse_logic {doc : Value} {rs : List Rule} {vs cs : List Value} {es : Entries} {s : Text}
    (h : parse doc = .ok rs) (hvs : entries? doc = some vs) (hentry : .map es ∈ vs)
    (hlogic : Entries.get? (.text "logic") es = some (.text s)) (hand : s ≠ "AND") (hor : s ≠ "OR")
    (hcs : (Entries.get? (.text "conditions") es).bind Value.items? = some cs) (hne : cs ≠ []) :
    ∃ first r last, rs = first ++ r :: last ∧ RuleDefinition.read (.map es) = .ok r ∧
      (s ≠ "" → ∀ (gates : List Gate) (now : DateTime) (player : Value),
        eligibleRules gates now player rs = eligibleRules gates now player (first ++ last) ∧
        ∀ out, (∀ g ∈ gates, g.KeepsNames) →
          (eligibleRules gates now player rs).outcome = .ok out → ∀ r' ∈ out, r'.id ≠ r.id) ∧
      (s = "" → ∀ player, r.matchesPlayer player
        = Traced.allHold (·.evaluate player) r.conditions) := by
  obtain ⟨first, r, last, rfl, hread, hnew⟩ := exists_rule_of_entry h hvs hentry
  have hfields : RuleDefinition.fields es = .ok r := hread
  have hconditions : r.conditions ≠ [] := by
    have hmap := RuleDefinition.conditions_of_fields hfields hcs
    intro hnil
    rw [hnil, List.map_nil, List.map_eq_nil_iff] at hmap
    exact hne hmap
  have hforce := RuleDefinition.logic_of_fields hfields hlogic
  refine ⟨first, r, last, rfl, hread, ?_, ?_⟩
  · intro hs gates now player
    rw [if_neg hs] at hforce
    have hmatches : r.matchesPlayer player = Pure.pure false :=
      Rule.matchesPlayer_of_logic hconditions (hforce ▸ hand) (hforce ▸ hor) player
    have hsame : eligibleRules gates now player (first ++ r :: last)
        = eligibleRules gates now player (first ++ last) := eligibleRules_append_cons hmatches _ _
    refine ⟨hsame, ?_⟩
    intro out hg hout r' hr' hid
    -- the names that are left are those of the other rules
    rw [hsame] at hout
    have hsub := (sublist_eligibleRules hg hout).subset (List.mem_map_of_mem hr')
    rw [hid] at hsub
    exact hnew hsub
  · intro hs
    rw [if_pos hs] at hforce
    exact Rule.matchesPlayer_of_and hforce

/-- An entry with a logic and the condition that a level is five. -/
def combining (id logic : Text) : Entries :=
  [(.text "id", .text id), (.text "logic", .text logic), (.text "conditions", .list [.record
    [("field", .text "level"), ("operator", .text "eq"), ("value", .int 5)]])]

/-- A rule with a misspelt logic is passed over for all players. -/
theorem parse_logic_lowercase :
    ∃ rs r, parse (listing [.map (combining "a" "AND"), .map (combining "b" "and")]) = .ok rs ∧
      RuleDefinition.read (.map (combining "b" "and")) = .ok r ∧
      ∀ now player out, (eligibleRules [.pass] now player rs).outcome = .ok out →
        ∀ r' ∈ out, r'.id ≠ r.id := by
  have hread : (parse (listing [.map (combining "a" "AND"),
      .map (combining "b" "and")])).toOption.any (fun rs => !rs.isEmpty) = true := by
    decide +kernel
  obtain ⟨rs, hrs, -⟩ := exists_of_toOption_any hread
  obtain ⟨first, r, last, -, hr, hpassed, -⟩ := parse_logic hrs (entries?_listing _)
    (List.mem_cons_of_mem _ List.mem_cons_self) rfl (by decide) (by decide) rfl
    (List.cons_ne_nil _ _)
  refine ⟨rs, r, hrs, hr, ?_⟩
  intro now player out
  refine (hpassed (by decide) [.pass] now player).2 out ?_
  intro g hg
  obtain rfl := List.mem_singleton.mp hg
  exact (Gate.keeps_of_ne_outside (by simp)).keepsNames

/-- A rule with the empty logic is there for a player on whom its condition holds. -/
theorem parse_logic_empty :
    ∃ rs out, parse (listing [.map (combining "r" "")]) = .ok rs ∧
      (eligibleRules [] ⟨⟨2025, 1, 1⟩, 12, 0, 0, 0, none⟩ (.record [("level", .int 5)]) rs).outcome
        = .ok out ∧ out.map Rule.id = ["r"] := by
  have hread : (parse (listing [.map (combining "r" "")])).toOption.any (fun rs =>
      (eligibleRules [] ⟨⟨2025, 1, 1⟩, 12, 0, 0, 0, none⟩ (.record [("level", .int 5)])
        rs).outcome.toOption.any fun out => out.map Rule.id == (["r"] : List Text)) = true := by
    decide +kernel
  obtain ⟨rs, hrs, helig⟩ := exists_of_toOption_any hread
  obtain ⟨out, hout, hids⟩ := exists_of_toOption_any helig
  exact ⟨rs, out, hrs, hout, by simpa using hids⟩

end RuleSet
end OfferRules

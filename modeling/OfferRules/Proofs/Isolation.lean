import OfferRules.Proofs.Documents
import OfferRules.Proofs.Run
import OfferRules.Proofs.Selection
import OfferRules.Proofs.StableOrder
import OfferRules.Sample

/-!
# One more rule

What one more rule in a document can do to the selections.  The rule has a place of its own among
the others and leaves their order alone, so it can win or be passed over.  A rule that fails for a
player takes the promotion away from that player, and a priority that compares with nothing may
turn the order of the others round.

## Main definitions

* `winner?` — the rule whose promotion a player gets.
* `Gate.isStanding` — a gate that looks at no running clock.
* `Engine.ofDocument` — an engine with the rules of a document.

## Main results

* `Engine.select_promotion` — a player gets the promotion of the winner.
* `winner?_insert` — one more rule wins, is passed over, or fails.
* `RuleSet.parse_insert` — the rules of a document with one more entry.
* `Engine.select_insert` — **selections from a document with one more entry.**
-/

namespace OfferRules

open Traced

variable {gates : List Gate} {now now' : DateTime} {x : Value}

/-! ### The winner -/

/-- The rule whose promotion a player gets from some rules at a time. -/
def winner? (gates : List Gate) (now : DateTime) (x : Value) (rs : List Rule) : Option Rule :=
  if (playerProblem? x).isNone ∧ (playerId x).isWritable ∧ ∀ r ∈ rs, ¬ r.Fails gates now x then
    rs.find? (Rule.isEligible gates now x)
  else none

/-- A player gets the promotion of the winner. -/
theorem Engine.select_promotion {e : Engine} (hs : e.strategy = .priority)
    (hg : ∀ g ∈ e.gates, g.Keeps) (now : DateTime) (elapsed : Magnitude) (x : Value) :
    (e.select now elapsed x).promotion = (winner? e.gates now x e.rules).map (·.payload now) := by
  unfold winner?
  cases hp : playerProblem? x with
  | some problem => rw [select_of_problem elapsed hp]; simp
  | none =>
    by_cases hw : (playerId x).isWritable = true
    · by_cases hall : ∀ r ∈ e.rules, ¬ r.Fails e.gates now x
      · rw [select_of_ok elapsed hp (choose_first hs hg hw hall), if_pos ⟨rfl, hw, hall⟩]
      · have hsome : ∃ r ∈ e.rules, r.Fails e.gates now x := by simpa using hall
        obtain ⟨_, _, _, _, hc⟩ := choose_of_exists hw hsome
        rw [select_of_error elapsed hp hc, if_neg fun h => hall h.2.2]
        rfl
    · rw [select_of_error elapsed hp (choose_of_not_isWritable (Bool.eq_false_iff.mpr hw)),
        if_neg fun h => hw h.2.1]
      rfl

/-- Where a rule fails, nobody wins. -/
theorem winner?_of_fails {rs : List Rule} {r : Rule} (hr : r ∈ rs) (h : r.Fails gates now x) :
    winner? gates now x rs = none :=
  if_neg fun hall => hall.2.2 r hr h

/-- One more rule that does not fail wins or is passed over. -/
theorem winner?_insert {first last : List Rule} {r : Rule} (h : ¬ r.Fails gates now x) :
    winner? gates now x (first ++ r :: last) = some r ∨
      winner? gates now x (first ++ r :: last) = winner? gates now x (first ++ last) := by
  have hall : (∀ r' ∈ first ++ r :: last, ¬ r'.Fails gates now x) ↔
      ∀ r' ∈ first ++ last, ¬ r'.Fails gates now x := by
    simp only [List.forall_mem_append, List.forall_mem_cons]
    exact ⟨fun hf => ⟨hf.1, hf.2.2⟩, fun hf => ⟨hf.1, h, hf.2⟩⟩
  unfold winner?
  simp only [hall]
  split
  · cases hfirst : first.find? (Rule.isEligible gates now x) with
    | some r' =>
      -- a rule before it wins
      right
      rw [List.find?_append, List.find?_append, hfirst]
      rfl
    | none =>
      -- nobody before it wins, so its own turn comes next
      rw [List.find?_append, List.find?_append, hfirst, List.find?_cons]
      cases hr : r.isEligible gates now x with
      | true => exact Or.inl rfl
      | false => exact Or.inr rfl
  · exact Or.inr rfl

/-! ### Gates that look at no running clock -/

/-- Whether a gate of the library looks at no running clock. -/
def Gate.isStanding : Gate → Bool
  | .window (.fixed _) | .pass | .reject _ | .buckets _ _ _ _ => true
  | .window .running | .outside _ => false

theorem Gate.keeps_of_isStanding {g : Gate} (h : g.isStanding = true) : g.Keeps :=
  Gate.keeps_of_ne_outside fun hook heq => by rw [heq] at h; exact nomatch h

theorem Gate.apply_of_isStanding {g : Gate} (h : g.isStanding = true) (now now' : DateTime)
    (r : Rule) (player : Value) : g.apply now r player = g.apply now' r player := by
  cases g with
  | window clock =>
    cases clock with
    | running => exact nomatch h
    | fixed t => rfl
  | outside hook => exact nomatch h
  | pass => rfl
  | reject ids => rfl
  | buckets count key count_pos digest => rfl

theorem Rule.passGates_of_isStanding (h : ∀ g ∈ gates, g.isStanding = true)
    (now now' : DateTime) (player : Value) (r : Rule) :
    Rule.passGates now player gates r = Rule.passGates now' player gates r :=
  Rule.passGates_congr (fun g hg r => Gate.apply_of_isStanding (h g hg) now now' r player) r

theorem Rule.candidate_of_isStanding (h : ∀ g ∈ gates, g.isStanding = true)
    (now now' : DateTime) (player : Value) (r : Rule) :
    r.candidate gates now player = r.candidate gates now' player := by
  unfold Rule.candidate
  rw [Rule.passGates_of_isStanding h now now']

/-- Gates that look at no running clock have the same winner at all times. -/
theorem winner?_of_isStanding (h : ∀ g ∈ gates, g.isStanding = true) (now now' : DateTime)
    (x : Value) (rs : List Rule) : winner? gates now x rs = winner? gates now' x rs := by
  have hkeeps : ∀ g ∈ gates, g.Keeps := by
    intro g hg
    exact Gate.keeps_of_isStanding (h g hg)
  have hcandidate : ∀ r : Rule, r.candidate gates now x = r.candidate gates now' x :=
    Rule.candidate_of_isStanding h now now' x
  have heligible : Rule.isEligible gates now x = Rule.isEligible gates now' x := by
    funext r
    rw [Bool.eq_iff_iff]
    have hiff : ∀ t, (r.candidate gates t x).outcome = .ok (some r) ↔
        r = r ∧ r.isEligible gates t x = true := by
      intro t
      exact Rule.candidate_eq_some hkeeps
    simp only [true_and] at hiff
    rw [← hiff now, ← hiff now', hcandidate r]
  have hfails : ∀ r : Rule, r.Fails gates now x ↔ r.Fails gates now' x := by
    intro r
    rw [Rule.Fails, Rule.Fails, hcandidate r]
  unfold winner?
  simp only [hfails, heligible]

/-! ### Documents -/

/-- The rules of a document with one more entry: one more rule, in a place of its own among the
others. -/
theorem RuleSet.parse_insert {es es' : Entries} {pre post : List Value} {new : Value}
    (hes : Entries.get? (.text "rules") es = some (.list (pre ++ post)))
    (hes' : Entries.get? (.text "rules") es' = some (.list (pre ++ new :: post)))
    {rs rs' : List Rule} (h : parse (.map es) = .ok rs) (h' : parse (.map es') = .ok rs')
    (hpriority : ∀ r ∈ rs', r.priority ≠ .double .nan) :
    ∃ r first last, RuleDefinition.read new = .ok r ∧ rs' = first ++ r :: last ∧
      rs = first ++ last := by
  obtain ⟨rules, hrules, -, rfl⟩ := (parse_eq_ok (entries?_of_list hes)).mp h
  obtain ⟨rules', hrules', hids, rfl⟩ := (parse_eq_ok (entries?_of_list hes')).mp h'
  -- the list of rules is cut where the list of entries is
  obtain ⟨before, rest, rfl, hbefore, hrest⟩ := List.map_eq_append_iff.mp
    (hrules'.symm.trans List.map_append)
  obtain ⟨r, behind, rfl, hr, hbehind⟩ := List.map_eq_cons_iff.mp hrest
  have hsame : rules = before ++ behind := by
    rw [← List.map_inj_right (f := Except.ok) fun _ _ => Except.ok.inj, ← hrules]
    simp [hbefore, hbehind]
  have hnodup : (before ++ r :: behind).Nodup := List.Nodup.of_map Rule.id hids
  have hnan : ∀ r' ∈ before ++ r :: behind, r'.priority ≠ .double .nan := by
    intro r' hr'
    exact hpriority r' ((perm_byPriority _).mem_iff.mpr hr')
  obtain ⟨first, last, hwith, hwithout⟩ := byPriority_insert hnodup hnan
  exact ⟨r, first, last, hr.symm, hwith, hsame ▸ hwithout⟩

namespace Engine

/-- An engine that has loaded the rules of a document. -/
def ofDocument (doc : Value) (gates : List Gate) (draws : Draws) (now : DateTime) : Engine :=
  ((fresh (.document doc) gates .priority draws).load now).1

theorem ofDocument_gates (doc : Value) (gates : List Gate) (draws : Draws) (now : DateTime) :
    (ofDocument doc gates draws now).gates = gates := rfl

theorem ofDocument_strategy (doc : Value) (gates : List Gate) (draws : Draws) (now : DateTime) :
    (ofDocument doc gates draws now).strategy = .priority := rfl

theorem ofDocument_rules {doc : Value} {rs : List Rule} (h : RuleSet.parse doc = .ok rs)
    (gates : List Gate) (draws : Draws) (now : DateTime) :
    (ofDocument doc gates draws now).rules = rs := by
  have hload : (RuleSource.document doc).rules = .ok rs := h
  unfold ofDocument load rules RuleStore.load fresh
  dsimp only
  rw [hload]
  rfl

theorem select_ofDocument {doc : Value} {rs : List Rule} (h : RuleSet.parse doc = .ok rs)
    (hg : ∀ g ∈ gates, g.isStanding = true) (draws : Draws) (loaded now : DateTime)
    (elapsed : Magnitude) (x : Value) :
    ((ofDocument doc gates draws loaded).select now elapsed x).promotion
      = (winner? gates now x rs).map (·.payload now) := by
  rw [select_promotion (ofDocument_strategy doc gates draws loaded)
    (fun g hmem => Gate.keeps_of_isStanding (hg g hmem)), ofDocument_gates, ofDocument_rules h]

/-- **Selections from a document with one more entry.**  The gates look at no running clock, and
all priorities compare.  Then a player gets the promotion of the new rule, or that of the rule
that wins without it, unless the new rule fails for the player, who then gets none. -/
theorem select_insert {es es' : Entries} {pre post : List Value} {new : Value}
    (hes : Entries.get? (.text "rules") es = some (.list (pre ++ post)))
    (hes' : Entries.get? (.text "rules") es' = some (.list (pre ++ new :: post)))
    {rs rs' : List Rule} (h : RuleSet.parse (.map es) = .ok rs)
    (h' : RuleSet.parse (.map es') = .ok rs') (hpriority : ∀ r ∈ rs', r.priority ≠ .double .nan)
    (hg : ∀ g ∈ gates, g.isStanding = true) (draws draws' : Draws)
    (loaded loaded' now now' : DateTime) (elapsed elapsed' : Magnitude) (x : Value) :
    ((ofDocument (.map es) gates draws loaded).select now elapsed x).promotion
      = (winner? gates now x rs).map (·.payload now) ∧
    ((ofDocument (.map es') gates draws' loaded').select now' elapsed' x).promotion
      = (winner? gates now' x rs').map (·.payload now') ∧
    ∃ r ∈ rs', RuleDefinition.read new = .ok r ∧
      (r.Fails gates now' x → winner? gates now' x rs' = none) ∧
      (¬ r.Fails gates now' x → winner? gates now' x rs' = some r ∨
        winner? gates now' x rs' = winner? gates now x rs) := by
  refine ⟨select_ofDocument h hg draws loaded now elapsed x,
    select_ofDocument h' hg draws' loaded' now' elapsed' x, ?_⟩
  obtain ⟨r, first, last, hread, rfl, rfl⟩ := RuleSet.parse_insert hes hes' h h' hpriority
  have hmem : r ∈ first ++ r :: last := List.mem_append_right first List.mem_cons_self
  refine ⟨r, hmem, hread, winner?_of_fails hmem, ?_⟩
  intro hok
  -- both documents are asked at one time, as the gates look at no running clock
  rw [winner?_of_isStanding hg now now']
  exact winner?_insert hok

end Engine

/-! ### Documents in which one more entry is felt -/

namespace Sample

/-- An entry for a rule that is for all. -/
def openEntry (id : Text) (priority : Number) : Value :=
  rule (.text id) (.number priority) .null .null

/-- An entry for a rule with one condition, that an attribute is one. -/
def closedEntry (id : Text) (priority : Number) (field : Text) : Value :=
  rule (.text id) (.number priority)
    (.list [.record [("field", .text field), ("operator", .text "eq"), ("value", .int 1)]]) .null

/-- A player with a list, who has no level. -/
def lister : Value := player "p" [(.text "list", .list [.int 1])]

/-- The name of the rule whose promotion the player gets from some entries, if they are read. -/
def promoted? (entries : List Value) : Option (Option Text) :=
  match RuleSet.parse (.record [("rules", .list entries)]) with
  | .error _ => none
  | .ok _ =>
    let e := Engine.ofDocument (.record [("rules", .list entries)]) [] { draw := fun _ => .zero }
      noon
    some ((e.select noon .zero lister).promotion.map fun promotion =>
      ((Entries.get? (.text "ruleId") promotion).getD .null).display)

end Sample

/-- Entries of a mapping that writes some rules. -/
def Sample.entries (rules : List Value) : Entries := [(.text "rules", .list rules)]

/-- A rule for players with a level, put between two others, wins or is passed over. -/
theorem Engine.select_insert_between :
    ∃ rs rs' r,
      RuleSet.parse (.map (Sample.entries [Sample.openEntry "a" 1, Sample.openEntry "b" 2]))
        = .ok rs ∧
      RuleSet.parse (.map (Sample.entries [Sample.openEntry "a" 1, Sample.closedEntry "r" 9 "level",
        Sample.openEntry "b" 2])) = .ok rs' ∧
      RuleDefinition.read (Sample.closedEntry "r" 9 "level") = .ok r ∧
      (winner? [.buckets 10 Gate.bucketsKey] Sample.noon Sample.lister rs' = some r ∨
        winner? [.buckets 10 Gate.bucketsKey] Sample.noon Sample.lister rs'
          = winner? [.buckets 10 Gate.bucketsKey] Sample.noon Sample.lister rs) := by
  let ranked (rs : List Rule) : Bool := rs.all fun r => decide (r.priority ≠ .double .nan)
  have hread : (RuleSet.parse (.map (Sample.entries [Sample.openEntry "a" 1,
      Sample.openEntry "b" 2]))).toOption.any ranked = true := by decide +kernel
  have hread' : (RuleSet.parse (.map (Sample.entries [Sample.openEntry "a" 1,
      Sample.closedEntry "r" 9 "level", Sample.openEntry "b" 2]))).toOption.any ranked = true := by
    decide +kernel
  have hnew : (RuleDefinition.read (Sample.closedEntry "r" 9 "level")).toOption.any (fun r =>
      !decide (r.Fails [.buckets 10 Gate.bucketsKey] Sample.noon Sample.lister)) = true := by
    decide +kernel
  obtain ⟨rs, hrs, -⟩ := exists_of_toOption_any hread
  obtain ⟨rs', hrs', hranked⟩ := exists_of_toOption_any hread'
  have hes : Entries.get? (.text "rules") (Sample.entries [Sample.openEntry "a" 1,
      Sample.openEntry "b" 2]) = some (.list ([Sample.openEntry "a" 1] ++
        [Sample.openEntry "b" 2])) := rfl
  have hes' : Entries.get? (.text "rules") (Sample.entries [Sample.openEntry "a" 1,
      Sample.closedEntry "r" 9 "level", Sample.openEntry "b" 2]) = some (.list
        ([Sample.openEntry "a" 1] ++ Sample.closedEntry "r" 9 "level" ::
          [Sample.openEntry "b" 2])) := rfl
  have hg : ∀ g ∈ [Gate.buckets 10 Gate.bucketsKey], g.isStanding = true := by decide
  let draws : Draws := { draw := fun _ => .zero }
  obtain ⟨-, -, r, -, hr, -, hwinner⟩ := Engine.select_insert hes hes' hrs hrs'
    (by simpa [ranked] using hranked) hg draws draws Sample.noon Sample.noon Sample.noon
    Sample.noon .zero .zero Sample.lister
  obtain ⟨r', hr', hok⟩ := exists_of_toOption_any hnew
  obtain rfl := Except.ok.inj (hr.symm.trans hr')
  exact ⟨rs, rs', r, hrs, hrs', hr, hwinner (by simpa using hok)⟩

/-- A rule that fails takes the promotion of another away, and one whose priority compares with
nothing gives the player that of a rule of less priority. -/
theorem Engine.select_insert_felt :
    (Sample.promoted? [Sample.openEntry "a" 1] = some (some (.whole "a")) ∧
      Sample.promoted? [Sample.openEntry "a" 1, Sample.closedEntry "r" 9 "list.²"]
        = some none) ∧
    Sample.promoted? [Sample.openEntry "a" 1, Sample.openEntry "b" 2] = some (some (.whole "b")) ∧
      Sample.promoted? [Sample.openEntry "a" 1, Sample.closedEntry "r" (.double .nan) "level",
        Sample.openEntry "b" 2] = some (some (.whole "a")) := by
  decide +kernel

end OfferRules

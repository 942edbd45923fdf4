import OfferRules.Proofs.Alike
import OfferRules.Proofs.Eligibility
import OfferRules.Proofs.MomentSpelling

/-!
# Windows and instants

A window gate compares moments on the line of universal time: it admits a rule from the first moment
of its window to the last one, both included, and a bound that is not there leaves the window open.
It has no fault, whichever of the readings have an offset.  So how a document spells the bounds of a
window does not matter, as long as they are the same moments.

## Main definitions

* `Rule.OpenAt` — the moments at which the window of a rule is open.
* `Value.Writes` — the moment that a value of a document writes.
* `RuleSet.Respelled` — entries with other spellings of the bounds of their windows.
* `Rule.SameTimes` — rules that a window gate treats alike.

## Main results

* `DateTime.instant_of_counted` — the moment of a reading, with its day counted.
* `Gate.apply_window` — what a window gate makes of a rule.
* `RuleSet.read_of_respelled` — a rule with another spelling of a bound.
* `RuleSet.window_instants` — **windows depend on instants alone.**
-/

namespace OfferRules

/-! ### The gate -/

/-- The moment of a reading, in microseconds from the start of 1970, with its day counted. -/
theorem DateTime.instant_of_counted {t : DateTime} {n : Nat} (h : t.date.Counted n) :
    t.instant = (((n : ℤ) - 719163) * 86400 + t.hour * 3600 + t.minute * 60 + t.second) * 1000000
      + t.micro - t.offset.getD 0 := by
  obtain ⟨-, rfl⟩ := h.spec
  rfl

/-- The window of a rule is open at a moment, if it has one: both bounds are included, and one that
is not there leaves it open. -/
def Rule.OpenAt (r : Rule) (now : Int) : Prop :=
  ∀ w ∈ r.window, (∀ t ∈ w.start, t.instant ≤ now) ∧ ∀ t ∈ w.finish, now ≤ t.instant

instance (r : Rule) (now : Int) : Decidable (r.OpenAt now) := by
  unfold Rule.OpenAt
  infer_instance

theorem TimeWindow.admits_iff {w : TimeWindow} {now : DateTime} :
    w.admits now = true ↔
      (∀ t ∈ w.start, t.instant ≤ now.instant) ∧ ∀ t ∈ w.finish, now.instant ≤ t.instant := by
  simp [admits, Option.all_eq_true]

/-- What a window gate makes of a rule; it has no fault and tells nothing. -/
theorem Gate.apply_window (clock : Clock) (now : DateTime) (r : Rule) (player : Value) :
    (Gate.window clock).apply now r player
      = Pure.pure (if r.OpenAt (clock.read now).instant then some r else none) := by
  have hadmits : (Gate.window clock).admits now r player
      = Pure.pure (decide (r.OpenAt (clock.read now).instant)) := by
    cases hw : r.window with
    | none => simp [admits, Rule.OpenAt, hw]
    | some w =>
      have hiff := @TimeWindow.admits_iff w (clock.read now)
      simp only [admits, hw, Rule.OpenAt, Option.mem_some_iff, forall_eq']
      rw [Bool.eq_iff_iff.mpr (hiff.trans decide_eq_true_iff.symm)]
  simp only [apply, hadmits, Traced.pure_bind_eq, decide_eq_true_eq]

/-- A rule and another one that differs from it in its window alone and that window gates treat
alike. -/
def Rule.SameTimes (r r' : Rule) : Prop :=
  r' = { r with window := r'.window } ∧ ∀ clock now player,
    (Gate.window clock).admits now r' player = (Gate.window clock).admits now r player

/-! ### Bounds -/

/-- A value of a document writes a moment, given in seconds after the start of 1970 in universal
time. -/
inductive Value.Writes : Value → ℚ → Prop where
  /-- A text that spells it. -/
  | text {s : String} {q : ℚ} (h : Iso8601.Denotes s.toUTF8.toList q) : Writes (.text s) q
  /-- Bytes that spell it. -/
  | bytes {b : List UInt8} {q : ℚ} (h : Iso8601.Denotes b q) : Writes (.atom (.bytes b)) q
  /-- A reading. -/
  | reading {t : DateTime} : Writes (.atom (.dateTime t)) (t.instant / 10 ^ 6)
  /-- A day stands for its midnight. -/
  | day {d : Date} {n : Nat} (h : d.Counted n) :
      Writes (.atom (.date d)) ((n - epochOrdinal) * 86400)

/-- Readings of one moment. -/
def DateTime.SameInstant (t t' : DateTime) : Prop := t'.instant = t.instant

theorem momentInText_of_denotes {bs : List UInt8} {q : ℚ} (h : Iso8601.Denotes bs q) :
    ∃ t, momentInText bs = .ok t ∧ t.instant = ⌊q * 10 ^ 6⌋ := by
  obtain ⟨t, ht, hinstant⟩ := Moment.ofText_of_denotes h
  exact ⟨t, by simp only [momentInText, ht], hinstant⟩

theorem ofText_of_momentInText {bs : List UInt8} {t : DateTime} (h : momentInText bs = .ok t) :
    Moment.ofText bs = .ok t := by
  unfold momentInText at h
  split at h
  · next t' ht' =>
    obtain rfl := Except.ok.inj h
    exact ht'
  · cases h
  · cases h

/-- What writes a moment is read as it, to the microsecond. -/
theorem Value.Writes.spec {v : Value} {q : ℚ} (h : v.Writes q) :
    v.isNull = false ∧ ∃ t, readMoment v = .ok t ∧ t.instant = ⌊q * 10 ^ 6⌋ := by
  cases h with
  | text h => exact ⟨rfl, momentInText_of_denotes h⟩
  | bytes h => exact ⟨rfl, momentInText_of_denotes h⟩
  | @reading t =>
    refine ⟨rfl, t, rfl, ?_⟩
    rw [div_mul_cancel₀ _ (by norm_num), Int.floor_intCast]
  | @day d n h =>
    obtain ⟨-, rfl⟩ := h.spec
    refine ⟨rfl, ⟨d, 0, 0, 0, 0, none⟩, rfl, ?_⟩
    have hinstant := @Moment.instant_eq_floor 0 0 (by simp) d 0 0 0 none
    simpa using hinstant

/-- A bound of a window, where an entry of the window gets another value for the same moment. -/
theorem bound_alike {ws : Entries} {changed : Text} {v v' : Value} {q : ℚ}
    (hget : Entries.get? (.text changed) ws = some v) (hv : v.Writes q) (hv' : v'.Writes q)
    (name : Text) :
    Alike (Option.Rel DateTime.SameInstant)
      (Field.optional [name] none (readNullable readMoment) ws)
      (Field.optional [name] none (readNullable readMoment) (ws.insert (.text changed) v')) := by
  by_cases hname : changed = name
  · subst hname
    have hfind : Field.find? [changed] ws = some (changed, v) := by
      rw [Field.find?_cons, hget]
    obtain ⟨hnull, t, ht, hinstant⟩ := hv.spec
    obtain ⟨hnull', t', ht', hinstant'⟩ := hv'.spec
    refine Alike.optional hfind (Field.find?_insert_self hfind v') (Alike.readNullable ?_ ?_)
    · rw [hnull, hnull']
    · rw [ht, ht']
      exact .ok (hinstant'.trans hinstant.symm)
  · have hsame := Field.find?_insert_of_not_mem (show changed ∉ [name] by simpa using hname) ws v'
    simp only [Field.optional, hsame]
    refine Alike.refl ?_ _
    rintro (_ | t)
    · exact .none
    · exact .some rfl

/-- Windows that are open at the same times. -/
def TimeWindow.SameTimes (w w' : TimeWindow) : Prop := ∀ now, w'.admits now = w.admits now

/-- Bounds of one moment pass the same tests. -/
theorem all_of_rel {t t' : Option DateTime} (h : Option.Rel DateTime.SameInstant t t')
    (test : Int → Bool) : (t'.all fun t => test t.instant) = t.all fun t => test t.instant := by
  cases h with
  | none => rfl
  | some h => rw [Option.all_some, Option.all_some, h]

theorem TimeWindow.sameTimes_of_rel {s s' e e' : Option DateTime}
    (hs : Option.Rel DateTime.SameInstant s s') (he : Option.Rel DateTime.SameInstant e e') :
    TimeWindow.SameTimes ⟨s, e⟩ ⟨s', e'⟩ := by
  intro now
  rw [admits, admits, all_of_rel hs fun i => decide (i ≤ now.instant),
    all_of_rel he fun i => decide (now.instant ≤ i)]

theorem TimeWindowDefinition.fields_alike {ws : Entries} {changed : Text} {v v' : Value} {q : ℚ}
    (hget : Entries.get? (.text changed) ws = some v) (hv : v.Writes q) (hv' : v'.Writes q) :
    Alike TimeWindow.SameTimes (fields ws) (fields (ws.insert (.text changed) v')) := by
  have hbound := bound_alike hget hv hv'
  refine .ap (hbound "end") ((hbound "start").map ?_)
  intro s s' hs e e' he
  exact TimeWindow.sameTimes_of_rel hs he

/-! ### Rules -/

namespace Rule

theorem SameTimes.refl (r : Rule) : r.SameTimes r := ⟨rfl, fun _ _ _ => rfl⟩

theorem SameTimes.trans {r s t : Rule} (h : r.SameTimes s) (h' : s.SameTimes t) :
    r.SameTimes t := by
  obtain ⟨hr, hadmits⟩ := h
  obtain ⟨hs, hadmits'⟩ := h'
  refine ⟨?_, ?_⟩
  · rw [hs, hr]
  · intro clock now player
    rw [hadmits', hadmits]

theorem SameTimes.id_eq {r r' : Rule} (h : r.SameTimes r') : r'.id = r.id := by rw [h.1]

theorem SameTimes.priority_eq {r r' : Rule} (h : r.SameTimes r') : r'.priority = r.priority := by
  rw [h.1]

theorem sameTimes_of_rel {w w' : Option TimeWindow} (h : Option.Rel TimeWindow.SameTimes w w')
    (r : Rule) : ({ r with window := w } : Rule).SameTimes { r with window := w' } := by
  refine ⟨rfl, ?_⟩
  intro clock now player
  cases h with
  | none => rfl
  | some h => simp only [Gate.admits, h (clock.read now)]

end Rule

/-- A rule, where the window in force is changed for one that is read alike. -/
theorem RuleDefinition.fields_alike {fs : Entries} {name : Text} {v v' : Value}
    (hfind : Field.find? windowNames fs = some (name, v)) (hnull : v.isNull = v'.isNull)
    (h : Alike TimeWindow.SameTimes (TimeWindowDefinition.read v) (TimeWindowDefinition.read v')) :
    Alike Rule.SameTimes (fields fs) (fields (fs.insert (.text name) v')) := by
  have hwindow : Alike (Option.Rel TimeWindow.SameTimes)
      (Field.optional windowNames none (readNullable TimeWindowDefinition.read) fs)
      (Field.optional windowNames none (readNullable TimeWindowDefinition.read)
        (fs.insert (.text name) v')) :=
    .optional hfind (Field.find?_insert_self hfind v') (.readNullable hnull h)
  have hname : name ∈ windowNames := Field.mem_names_of_find? hfind
  -- the other entries have other names
  have hother : ∀ {other : Text}, other ∉ windowNames →
      Field.find? [other] (fs.insert (.text name) v') = Field.find? [other] fs := by
    intro other hother
    refine Field.find?_insert_of_not_mem ?_ fs v'
    rintro hmem
    exact hother (List.mem_singleton.mp hmem ▸ hname)
  unfold fields
  simp only [Field.required, Field.optional] at hwindow ⊢
  rw [hother (show ("id" : Text) ∉ windowNames by decide),
    hother (show ("priority" : Text) ∉ windowNames by decide),
    hother (show ("logic" : Text) ∉ windowNames by decide),
    hother (show ("conditions" : Text) ∉ windowNames by decide),
    hother (show ("promotion" : Text) ∉ windowNames by decide),
    hother (show ("weight" : Text) ∉ windowNames by decide)]
  refine .ap (.refl Eq.refl _) (.ap (.refl Eq.refl _) (.ap hwindow (.ap (.refl Eq.refl _)
    (.ap (.refl Eq.refl _) (.ap (.refl Eq.refl _) ((Alike.refl Eq.refl _).map ?_))))))
  rintro id _ rfl priority _ rfl logic _ rfl conditions _ rfl w w' hw promotion _ rfl weight _ rfl
  exact Rule.sameTimes_of_rel hw
    { id
      priority := priorityInForce priority
      logic := logicInForce logic
      conditions := conditions.getD []
      promotion := promotion.getD []
      weight := weight.map .double }

namespace RuleSet

/-- A rule of a document, and the same with other spellings of the bounds of its window. -/
inductive Respelled : Value → Value → Prop where
  /-- Nothing is changed. -/
  | same (v : Value) : Respelled v v
  /-- An entry of the window in force is changed for another one that writes the same moment. -/
  | bound {fs ws : Entries} {name changed : Text} {v v' : Value} {q : ℚ}
      (hwindow : Field.find? RuleDefinition.windowNames fs = some (name, .map ws))
      (hget : Entries.get? (.text changed) ws = some v) (hv : v.Writes q) (hv' : v'.Writes q) :
      Respelled (.map fs)
        (.map (fs.insert (.text name) (.map (ws.insert (.text changed) v'))))
  /-- One change after the other. -/
  | trans {u v w : Value} (h : Respelled u v) (h' : Respelled v w) : Respelled u w

theorem read_of_respelled {v v' : Value} (h : Respelled v v') :
    Alike Rule.SameTimes (RuleDefinition.read v) (RuleDefinition.read v') := by
  induction h with
  | same v => exact .refl Rule.SameTimes.refl _
  | bound hwindow hget hv hv' =>
    exact RuleDefinition.fields_alike hwindow rfl
      (TimeWindowDefinition.fields_alike hget hv hv')
  | trans h h' ih ih' => exact ih.trans (fun _ _ _ => Rule.SameTimes.trans) ih'

/-- **Windows depend on instants alone.**  A reading is a moment of universal time, its day counted
in the calendar and its offset, if it has one, taken off.  A window gate has no fault and admits a
rule exactly when the moment of its clock is not before the start of the window nor after its end.
A text that is accepted in an ISO 8601 form writes a moment, and is read as it, to the microsecond.
Where two documents write the same moments at the bounds of their windows, in whatever spellings,
and are the same in all else, either both are refused, for the same reason, or they give rules that
are the same but for their windows and that a window gate admits at the same times. -/
theorem window_instants :
    (∀ (t : DateTime) (n : Nat), t.date.Counted n →
      t.instant = (((n : ℤ) - 719163) * 86400 + t.hour * 3600 + t.minute * 60 + t.second) * 1000000
        + t.micro - t.offset.getD 0) ∧
    (∀ (clock : Clock) (now : DateTime) (r : Rule) (player : Value),
      (Gate.window clock).apply now r player
        = Pure.pure (if r.OpenAt (clock.read now).instant then some r else none)) ∧
    (∀ (s : String) (t : DateTime), readMoment (.text s) = .ok t →
      ((Iso8601.dateTime? s.toUTF8.toList).isSome = true ∨
        (Iso8601.midnight s.toUTF8.toList).isOk = true) →
      ∃ q, Value.Writes (.text s) q ∧ t.instant = ⌊q * 10 ^ 6⌋) ∧
    ∀ (doc doc' : Value) (vs vs' : List Value), entries? doc = some vs → entries? doc' = some vs' →
      List.Forall₂ Respelled vs vs' →
      Alike (List.Forall₂ Rule.SameTimes) (parse doc) (parse doc') := by
  refine ⟨fun t n h => DateTime.instant_of_counted h, Gate.apply_window, ?_, ?_⟩
  · intro s t hread hform
    obtain ⟨q, hq, hinstant⟩ := Moment.exists_denotes_of_ofText (ofText_of_momentInText hread) hform
    exact ⟨q, .text hq, hinstant⟩
  · intro doc doc' vs vs' hvs hvs' h
    exact parse_alike (fun _ _ => Rule.SameTimes.id_eq) (fun _ _ => Rule.SameTimes.priority_eq) hvs
      hvs' (h.imp fun _ _ => read_of_respelled)

/-- The entries of a window from a moment on. -/
def windowFrom (s : String) : Entries := [(.text "start", .text s)]

/-- The entries of a rule with a window from a moment on. -/
def startingAt (s : String) : Entries :=
  [(.text "id", .text "spring"), (.text "timeWindow", .map (windowFrom s))]

open Iso8601 in
theorem denotes_march : Denotes "2024-03-01T00:30:00+01:00".toUTF8.toList 1709249400 := by
  have hdate : OnDate ([0x32, 0x30, 0x32, 0x34] ++ 0x2d :: [0x30, 0x33] ++ 0x2d :: [0x30, 0x31])
      ⟨2024, 3, 1⟩ :=
    .fields (field_of_number? rfl) (field_of_number? rfl) (field_of_number? rfl)
  have hclock : OnClock ([0x30, 0x30] ++ 0x3a :: [0x33, 0x30] ++ 0x3a :: [0x30, 0x30]) 0 30 0 0 :=
    .fields (field_of_number? rfl) (by decide) (field_of_number? rfl) (by decide)
      (.whole (field_of_number? rfl) (by decide))
  have hzone : Zone (0x2b :: ([0x30, 0x31] ++ [0x3a] ++ [0x30, 0x30])) (some (60 * 1 + 0 : Nat)) :=
    .ahead (.fields (field_of_number? rfl) (by decide) (field_of_number? rfl) (by decide)
      (.inr rfl))
  have hmoment := @Denotes.of_parts "2024-03-01T00:30:00+01:00".toUTF8.toList _ _ _ _ 0x54 _ _ _ _ _
    (by decide +kernel) hdate (by decide) (by decide) hclock hzone
  have hordinal : Date.ordinal ⟨2024, 3, 1⟩ = 738946 := by decide
  norm_num [epochOrdinal, hordinal] at hmoment
  exact hmoment

open Iso8601 in
theorem denotes_february : Denotes "2024-02-29 23:30Z".toUTF8.toList 1709249400 := by
  have hdate : OnDate ([0x32, 0x30, 0x32, 0x34] ++ 0x2d :: [0x30, 0x32] ++ 0x2d :: [0x32, 0x39])
      ⟨2024, 2, 29⟩ :=
    .fields (field_of_number? rfl) (field_of_number? rfl) (field_of_number? rfl)
  have hclock : OnClock ([0x32, 0x33] ++ 0x3a :: [0x33, 0x30] ++ []) 23 30 0 0 :=
    .fields (field_of_number? rfl) (by decide) (field_of_number? rfl) (by decide) .absent
  have hmoment := @Denotes.of_parts "2024-02-29 23:30Z".toUTF8.toList _ _ _ _ 0x20 _ _ _ _ _
    (by decide +kernel) hdate (by decide) (by decide) hclock (.universal (.inl rfl))
  have hordinal : Date.ordinal ⟨2024, 2, 29⟩ = 738945 := by decide
  norm_num [epochOrdinal, hordinal] at hmoment
  exact hmoment

/-- Half past midnight on 1 March, an hour ahead of universal time, is spelt on 29 February: the
rules are read and are admitted at the same times. -/
theorem window_instants_leapDay :
    ∃ rs rs', parse (listing [.map (startingAt "2024-03-01T00:30:00+01:00")]) = .ok rs ∧
      parse (listing [.map (startingAt "2024-02-29 23:30Z")]) = .ok rs' ∧
      List.Forall₂ Rule.SameTimes rs rs' := by
  have hspelt : Respelled (.map (startingAt "2024-03-01T00:30:00+01:00"))
      (.map (startingAt "2024-02-29 23:30Z")) :=
    @Respelled.bound _ (windowFrom "2024-03-01T00:30:00+01:00") "timeWindow" "start" _ _ _ rfl rfl
      (.text denotes_march) (.text denotes_february)
  have halike := window_instants.2.2.2 (listing [.map (startingAt "2024-03-01T00:30:00+01:00")])
    (listing [.map (startingAt "2024-02-29 23:30Z")]) _ _ rfl rfl (.cons hspelt .nil)
  have hread : (parse (listing [.map (startingAt "2024-03-01T00:30:00+01:00")])).isOk = true := by
    decide +kernel
  generalize parse (listing [.map (startingAt "2024-03-01T00:30:00+01:00")]) = x at halike hread ⊢
  generalize parse (listing [.map (startingAt "2024-02-29 23:30Z")]) = y at halike ⊢
  cases halike with
  | ok h => exact ⟨_, _, rfl, rfl, h⟩
  | error e => cases hread

end RuleSet
end OfferRules

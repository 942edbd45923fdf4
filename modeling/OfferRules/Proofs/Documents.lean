import Mathlib.Data.List.Nodup
import OfferRules.Proofs.Issues
import OfferRules.RuleSet.Definition

/-!
# Which rules a document writes

A document is read exactly when each of its rules is read by itself and no two rules have one
name.  So the rules of a list of entries are those of its parts.  Where an entry is not read, the
document has the issues of all its entries, and where two entries have one name, that of the first
entry which repeats an earlier one.

## Main definitions

* `RuleSet.entries?` — the entries in which a document writes its rules.
* `RuleSet.listing` — the document that lists some entries.
* `RuleSet.entryIssues` — the issues of entries, each at its place in the document.

## Main results

* `RuleSet.firstRepeated?_eq_none`, `RuleSet.firstRepeated?_eq_some` — what is repeated in a list.
* `RuleSet.parse_eq_ok` — **the rules of a document.**
* `RuleSet.parse_of_fails`, `RuleSet.parse_of_repeats` — why a document gives no rules.
-/

namespace OfferRules.RuleSet

/-! ### Repeated names -/

theorem firstRepeated?_eq_none {seen ids : List Text} :
    firstRepeated? seen ids = none ↔ ids.Nodup ∧ ∀ id ∈ ids, id ∉ seen := by
  induction ids generalizing seen with
  | nil => simp [firstRepeated?]
  | cons id rest ih =>
    rw [firstRepeated?]
    by_cases h : seen.contains id = true
    · rw [if_pos h]
      simp_all
    · rw [if_neg h, ih, List.nodup_cons]
      simp_all
      grind

/-- The first name that is repeated stands behind names that are all different and new, and is one
of those or of the names seen before. -/
theorem firstRepeated?_eq_some {seen ids : List Text} {id : Text}
    (h : firstRepeated? seen ids = some id) :
    ∃ pre post, ids = pre ++ id :: post ∧ pre.Nodup ∧ (∀ x ∈ pre, x ∉ seen) ∧
      (id ∈ seen ∨ id ∈ pre) := by
  induction ids generalizing seen with
  | nil => exact nomatch h
  | cons id' rest ih =>
    rw [firstRepeated?] at h
    by_cases hseen : seen.contains id' = true
    · rw [if_pos hseen] at h
      obtain rfl := Option.some.inj h
      exact ⟨[], rest, rfl, List.nodup_nil, nofun, Or.inl (by simpa using hseen)⟩
    · -- the head is new, so it is one of the names seen from then on
      rw [if_neg hseen] at h
      obtain ⟨pre, post, rfl, hpre, hnew, hid⟩ := ih h
      refine ⟨id' :: pre, post, rfl, List.nodup_cons.mpr ⟨?_, hpre⟩, ?_, ?_⟩
      · intro hmem
        exact hnew id' hmem List.mem_cons_self
      · rw [List.forall_mem_cons]
        exact ⟨by simpa using hseen, fun x hx hx' => hnew x hx (List.mem_cons_of_mem id' hx')⟩
      · rcases hid with hid | hid
        · rcases List.mem_cons.mp hid with rfl | hid
          · exact Or.inr List.mem_cons_self
          · exact Or.inl hid
        · exact Or.inr (List.mem_cons_of_mem id' hid)

/-! ### Entries -/

/-- The entries in which a document writes its rules, in their order. -/
def entries? (doc : Value) : Option (List Value) := (doc.get? "rules").bind Value.items?

theorem entries?_of_list {es : Entries} {vs : List Value}
    (h : Entries.get? (.text "rules") es = some (.list vs)) : entries? (.map es) = some vs := by
  show (Entries.get? (.text "rules") es).bind Value.items? = some vs
  rw [h]
  rfl

/-- The document that lists some entries. -/
def listing (vs : List Value) : Value := .record [("rules", .list vs)]

theorem entries?_listing (vs : List Value) : entries? (listing vs) = some vs := rfl

/-- The rules of a document are written as a list under their key. -/
theorem required_rules {es : Entries} {vs : List Value} (hes : entries? (.map es) = some vs) :
    Field.required ["rules"] (readList RuleDefinition.read) es
      = Checked.under (.key "rules") (Checked.items RuleDefinition.read vs) := by
  obtain ⟨v, hv, hitems⟩ := Option.bind_eq_some_iff.mp hes
  have hget : Entries.get? (.text "rules") es = some v := hv
  simp only [Field.required, Field.find?, List.findSome?_cons, hget, Option.map_some]
  rw [readList_of_items? hitems]

theorem required_rules_eq_ok {es : Entries} {vs : List Value} {rules : List Rule}
    (hes : entries? (.map es) = some vs) :
    Field.required ["rules"] (readList RuleDefinition.read) es = .ok rules ↔
      vs.map RuleDefinition.read = rules.map .ok := by
  rw [required_rules hes, Checked.under_eq_ok, Checked.items_eq_ok]

/-- The rules of a mapping, in its order. -/
theorem readRules_eq_ok {es : Entries} {vs : List Value} {rules : List Rule}
    (hes : entries? (.map es) = some vs) :
    readRules es = .ok rules ↔
      vs.map RuleDefinition.read = rules.map .ok ∧ (rules.map Rule.id).Nodup := by
  unfold readRules
  split
  · next issues hissues =>
    have hnone : vs.map RuleDefinition.read ≠ rules.map .ok := by
      rw [Ne, ← required_rules_eq_ok hes, hissues]
      exact nofun
    simp [hnone]
  · next rules' hrules =>
    -- the rules read are determined by the entries, so only their names are left to look at
    rw [required_rules_eq_ok hes] at hrules
    rw [hrules, List.map_inj_right (fun _ _ => Except.ok.inj)]
    split
    · next id hid =>
      have hrepeat : ¬ (rules'.map Rule.id).Nodup := by
        intro hnodup
        rw [firstRepeated?_eq_none.mpr ⟨hnodup, by simp⟩] at hid
        exact nomatch hid
      refine iff_of_false nofun ?_
      rintro ⟨rfl, hnodup⟩
      exact hrepeat hnodup
    · next hid =>
      constructor
      · intro h
        obtain rfl := Except.ok.inj h
        exact ⟨rfl, (firstRepeated?_eq_none.mp hid).1⟩
      · rintro ⟨rfl, -⟩
        rfl

/-! ### Documents -/

/-- **The rules of a document** are those of its entries, each read by itself and no two of one
name, by descending priority. -/
theorem parse_eq_ok {es : Entries} {vs : List Value} {rs : List Rule}
    (hes : entries? (.map es) = some vs) :
    parse (.map es) = .ok rs ↔ ∃ rules, vs.map RuleDefinition.read = rules.map .ok ∧
      (rules.map Rule.id).Nodup ∧ byPriority rules = rs := by
  simp only [← and_assoc, ← readRules_eq_ok hes]
  rw [parse]
  cases hread : readRules es <;> simp

/-- A document that gives rules is a mapping that writes them in entries. -/
theorem entries?_of_parse {doc : Value} {rs : List Rule} (h : parse doc = .ok rs) :
    ∃ es vs, doc = .map es ∧ entries? doc = some vs := by
  cases doc with
  | map es =>
    obtain ⟨rules, hrules⟩ : ∃ rules, Field.required ["rules"] (readList RuleDefinition.read) es
        = .ok rules := by
      cases hreq : Field.required ["rules"] (readList RuleDefinition.read) es with
      | ok rules => exact ⟨rules, rfl⟩
      | error issues =>
        rw [parse, readRules, hreq] at h
        exact nomatch h
    unfold Field.required Field.find? at hrules
    cases hget : Entries.get? (.text "rules") es with
    | none =>
      simp only [List.findSome?_cons, List.findSome?_nil, hget, Option.map_none] at hrules
      exact nomatch hrules
    | some v =>
      simp only [List.findSome?_cons, hget, Option.map_some, Checked.under_eq_ok] at hrules
      obtain ⟨vs, hvs⟩ := items?_of_readList hrules
      refine ⟨es, vs, rfl, ?_⟩
      show (Entries.get? (.text "rules") es).bind Value.items? = some vs
      rw [hget]
      exact hvs
  | atom a => simp [parse] at h
  | list items => simp [parse] at h
  | set members => simp [parse] at h
  | pair a b => simp [parse] at h

/-- The issues of entries, each at its place in the document. -/
def entryIssues (vs : List Value) : List Issue :=
  vs.zipIdx.flatMap fun p => (Checked.issues (RuleDefinition.read p.1)).map fun i =>
    (i.under (.index p.2)).under (.key "rules")

/-- Where an entry is not read, the document has the issues of all entries. -/
theorem parse_of_fails {es : Entries} {vs : List Value} (hes : entries? (.map es) = some vs)
    (h : ∃ v ∈ vs, (RuleDefinition.read v).isOk = false) :
    parse (.map es) = .error (problemOf (entryIssues vs)) := by
  have hfails : (Checked.under (.key "rules") (Checked.items RuleDefinition.read vs)).isOk
      = false := by
    rw [Checked.isOk_under, Checked.isOk_items]
    simpa using h
  have hissues : Checked.issues (Checked.under (.key "rules")
      (Checked.items RuleDefinition.read vs)) = entryIssues vs := by
    rw [Checked.issues_under, Checked.issues_items, List.map_flatMap]
    simp only [List.map_map]
    rfl
  rw [parse, readRules, required_rules hes, Checked.eq_error_of_isOk hfails, hissues]

/-- Where all entries are read but a name is repeated, the only issue is that of the first name
which repeats an earlier one. -/
theorem parse_of_repeats {es : Entries} {vs : List Value} {rules : List Rule}
    (hes : entries? (.map es) = some vs) (hrules : vs.map RuleDefinition.read = rules.map .ok)
    (h : ¬ (rules.map Rule.id).Nodup) :
    ∃ (pre : List Text) (id : Text) (post : List Text),
      rules.map Rule.id = pre ++ id :: post ∧ pre.Nodup ∧ id ∈ pre ∧
      parse (.map es)
        = .error (.refused (.invalid
            [{ cause := .rule ("duplicate rule id: " ++ id.shown) }])) := by
  cases hfirst : firstRepeated? [] (rules.map Rule.id) with
  | none => exact absurd (firstRepeated?_eq_none.mp hfirst).1 h
  | some id =>
    obtain ⟨pre, post, hsplit, hpre, -, hid⟩ := firstRepeated?_eq_some hfirst
    refine ⟨pre, id, post, hsplit, hpre, hid.resolve_left nofun, ?_⟩
    rw [parse, readRules, (required_rules_eq_ok hes).mpr hrules]
    simp only [hfirst]
    rfl

end OfferRules.RuleSet

import OfferRules.Proofs.Documents
import OfferRules.Proofs.ReadingFaults
import OfferRules.Proofs.StableOrder

/-!
# A document against its entries

What a document of some entries gives is settled by what each entry gives in a document of its own.
It is read exactly when each of those is and their rules have different names, and then it has
their rules and no others.  Else it has the issues of all of them, each moved to the place of its
entry, or the one issue that a name is repeated.

## Main definitions

* `RuleSet.rulesOf`, `RuleSet.issuesOf`, `RuleSet.faultOf` — what a document gives.
* `RuleSet.rulesApart` — the rules that entries give, each in a document of its own.
* `Issue.atEntry` — an issue of an entry by itself, moved to the place of the entry.

## Main results

* `RuleSet.faultOf_listing` — a document meets the fault of its first entry that has one.
* `RuleSet.parse_listing` — **a document against its entries.**
-/

namespace OfferRules

/-- An issue of a document with one entry, seen in a document where that entry is at a place. -/
def Issue.atEntry (n : Nat) (i : Issue) : Issue :=
  match i.location with
  | .key "rules" :: .index 0 :: rest => { i with location := .key "rules" :: .index n :: rest }
  | _ => i

namespace RuleSet

/-- The rules of a document, if it has any. -/
def rulesOf (doc : Value) : List Rule := (parse doc).toOption.getD []

/-- The issues of a document, if it has any. -/
def issuesOf (doc : Value) : List Issue :=
  match parse doc with
  | .error (.refused (.invalid issues)) => issues
  | _ => []

/-- The fault that is met while a document is read, if there is one. -/
def faultOf (doc : Value) : Option Fault :=
  match parse doc with
  | .error (.fault f) => some f
  | _ => none

/-- The rules that entries give, each in a document of its own. -/
def rulesApart (vs : List Value) : List Rule := vs.flatMap fun v => rulesOf (listing [v])

variable {v : Value} {vs : List Value} {rules : List Rule}

/-! ### Problems -/

theorem problemOf_of_forall {issues : List Issue} (h : ∀ i ∈ issues, i.fault? = none) :
    problemOf issues = .refused (.invalid issues) := by
  rw [problemOf, List.findSome?_eq_none_iff.mpr h]

theorem faultOf_of_error {issues : List Issue} {doc : Value}
    (h : parse doc = .error (problemOf issues)) :
    faultOf doc = issues.findSome? Issue.fault? := by
  rw [faultOf, h, problemOf]
  cases issues.findSome? Issue.fault? <;> rfl

/-- The first fault among the issues of entries is that of the first entry with one. -/
theorem findSome?_entryIssues (vs : List Value) :
    (entryIssues vs).findSome? Issue.fault?
      = vs.findSome? fun v => (Checked.issues (RuleDefinition.read v)).findSome? Issue.fault? := by
  unfold entryIssues
  generalize 0 = n
  induction vs generalizing n with
  | nil => rfl
  | cons v rest ih =>
    -- an issue stands for the same fault wherever it is seen from
    rw [List.zipIdx_cons, List.flatMap_cons, List.findSome?_append, ih, List.findSome?_map,
      List.findSome?_cons]
    change ((Checked.issues (RuleDefinition.read v)).findSome? Issue.fault?).or _ = _
    cases (Checked.issues (RuleDefinition.read v)).findSome? Issue.fault? <;> rfl

theorem parse_listing_of_fails (h : ∃ v ∈ vs, (RuleDefinition.read v).isOk = false) :
    parse (listing vs) = .error (problemOf (entryIssues vs)) :=
  parse_of_fails (entries?_listing vs) h

theorem parse_listing_of_repeats (hrules : vs.map RuleDefinition.read = rules.map .ok)
    (h : ¬ (rules.map Rule.id).Nodup) :
    ∃ (pre : List Text) (id : Text) (post : List Text),
      rules.map Rule.id = pre ++ id :: post ∧ pre.Nodup ∧ id ∈ pre ∧
      parse (listing vs)
        = .error (.refused (.invalid [{ cause := .rule ("duplicate rule id: " ++ id.shown) }])) :=
  parse_of_repeats (entries?_listing vs) hrules h

/-! ### Documents of one entry -/

theorem parse_single_of_read {r : Rule} (h : RuleDefinition.read v = .ok r) :
    parse (listing [v]) = .ok [r] :=
  (parse_eq_ok (entries?_listing [v])).mpr ⟨[r], by simp [h], List.nodup_singleton r.id, rfl⟩

theorem parse_single_of_fails (h : (RuleDefinition.read v).isOk = false) :
    parse (listing [v]) = .error (problemOf (entryIssues [v])) :=
  parse_listing_of_fails ⟨v, List.mem_singleton_self v, h⟩

/-- A document of one entry is read exactly when the entry is. -/
theorem exists_parse_single :
    (∃ rs, parse (listing [v]) = .ok rs) ↔ ∃ r, RuleDefinition.read v = .ok r := by
  constructor
  · rintro ⟨rs, hrs⟩
    obtain ⟨rules, hrules, -, -⟩ := (parse_eq_ok (entries?_listing [v])).mp hrs
    exact Checked.exists_map_eq_ok.mp ⟨rules, hrules⟩ v (List.mem_singleton_self v)
  · rintro ⟨r, hr⟩
    exact ⟨[r], parse_single_of_read hr⟩

theorem faultOf_single (v : Value) :
    faultOf (listing [v])
      = (Checked.issues (RuleDefinition.read v)).findSome? Issue.fault? := by
  cases hread : RuleDefinition.read v with
  | ok r =>
    rw [faultOf, parse_single_of_read hread]
    rfl
  | error found =>
    have hfails : (RuleDefinition.read v).isOk = false := by rw [hread]; rfl
    rw [faultOf_of_error (parse_single_of_fails hfails), findSome?_entryIssues, List.findSome?_cons,
      hread]
    cases (Checked.issues (.error found : Checked Rule)).findSome? Issue.fault? <;> rfl

/-- The issues of a document of one entry are those of the entry. -/
theorem issuesOf_single (h : faultOf (listing [v]) = none) :
    issuesOf (listing [v]) = entryIssues [v] := by
  cases hread : RuleDefinition.read v with
  | ok r =>
    rw [issuesOf, parse_single_of_read hread]
    simp [entryIssues, hread, Checked.issues]
  | error found =>
    have hfails : (RuleDefinition.read v).isOk = false := by rw [hread]; rfl
    rw [faultOf_of_error (parse_single_of_fails hfails), List.findSome?_eq_none_iff] at h
    rw [issuesOf, parse_single_of_fails hfails, problemOf_of_forall h]

/-- An entry whose numbers all have a text meets no fault. -/
theorem faultOf_of_isWritable (h : v.isWritable = true) : faultOf (listing [v]) = none := by
  rw [faultOf_single, List.findSome?_eq_none_iff]
  exact RuleDefinition.noFault_read h

/-! ### Documents of many entries -/

theorem rulesApart_of_map (h : vs.map RuleDefinition.read = rules.map .ok) :
    rulesApart vs = rules := by
  induction vs generalizing rules with
  | nil => rw [List.map_eq_nil_iff.mp h.symm]; rfl
  | cons v rest ih =>
    obtain ⟨r, rules, rfl, hr, hrest⟩ := List.map_eq_cons_iff.mp h.symm
    have hv : rulesOf (listing [v]) = [r] := by
      rw [rulesOf, parse_single_of_read hr.symm]
      rfl
    rw [rulesApart, List.flatMap_cons, hv, ← rulesApart, ih hrest.symm]
    rfl

/-- Where each entry is read by itself, so are all. -/
theorem exists_map_of_forall (h : ∀ v ∈ vs, ∃ rs, parse (listing [v]) = .ok rs) :
    vs.map RuleDefinition.read = (rulesApart vs).map .ok := by
  obtain ⟨rules, hrules⟩ := Checked.exists_map_eq_ok.mpr fun v hv =>
    exists_parse_single.mp (h v hv)
  rw [rulesApart_of_map hrules, hrules]

/-- A document meets the fault of its first entry that meets one by itself. -/
theorem faultOf_listing (vs : List Value) :
    faultOf (listing vs) = vs.findSome? fun v => faultOf (listing [v]) := by
  simp only [faultOf_single]
  by_cases hall : ∀ v ∈ vs, (RuleDefinition.read v).isOk = true
  · -- no entry has issues, and a name that is repeated is no fault
    have hnone : ∀ v ∈ vs,
        (Checked.issues (RuleDefinition.read v)).findSome? Issue.fault? = none := by
      intro v hv
      obtain ⟨r, hr⟩ := isOk_eq_true.mp (hall v hv)
      rw [hr]
      rfl
    obtain ⟨rules, hrules⟩ := Checked.exists_map_eq_ok.mpr fun v hv =>
      isOk_eq_true.mp (hall v hv)
    rw [List.findSome?_eq_none_iff.mpr hnone]
    by_cases hids : (rules.map Rule.id).Nodup
    · have hread : parse (listing vs) = .ok (byPriority rules) :=
        (parse_eq_ok (entries?_listing vs)).mpr ⟨rules, hrules, hids, rfl⟩
      rw [faultOf, hread]
    · obtain ⟨_, _, _, -, -, -, hrepeats⟩ := parse_listing_of_repeats hrules hids
      rw [faultOf, hrepeats]
  · have hfails : ∃ v ∈ vs, (RuleDefinition.read v).isOk = false := by simpa using hall
    rw [faultOf_of_error (parse_listing_of_fails hfails), findSome?_entryIssues]

/-- The issues of entries are those of each by itself, moved to its place. -/
theorem entryIssues_eq (h : ∀ v ∈ vs, faultOf (listing [v]) = none) :
    entryIssues vs
      = vs.zipIdx.flatMap fun p => (issuesOf (listing [p.1])).map (·.atEntry p.2) := by
  refine List.flatMap_congr ?_
  intro p hp
  rw [issuesOf_single (h p.1 (List.fst_mem_of_mem_zipIdx hp))]
  simp [entryIssues, Issue.atEntry, Issue.under]

/-- **A document against its entries.**  A document of some entries is read exactly when each entry
is read in a document of its own and the rules of these have different names; then it has just
these rules.  A fault is met where an entry by itself meets one, which no entry in JSON does, and it
is that of the first such entry.  Where without a fault some entry is not read, the issues are those
of all entries, each at the place of its entry; and where only names are repeated, the one issue is
that of the first name which repeats an earlier one. -/
theorem parse_listing (vs : List Value) :
    ((∃ rs, parse (listing vs) = .ok rs) ↔
      (∀ v ∈ vs, ∃ rs, parse (listing [v]) = .ok rs) ∧ ((rulesApart vs).map Rule.id).Nodup) ∧
    (∀ rs, parse (listing vs) = .ok rs →
      (∀ v ∈ vs, ∃ r, parse (listing [v]) = .ok [r]) ∧ rs.Perm (rulesApart vs)) ∧
    (faultOf (listing vs) = vs.findSome? fun v => faultOf (listing [v])) ∧
    (∀ v ∈ vs, (∃ cs, Json.read? cs = some v) → faultOf (listing [v]) = none) ∧
    ((∃ v ∈ vs, ∀ rs, parse (listing [v]) ≠ .ok rs) →
      (∀ v ∈ vs, faultOf (listing [v]) = none) →
      parse (listing vs) = .error (.refused (.invalid
        (vs.zipIdx.flatMap fun p => (issuesOf (listing [p.1])).map (·.atEntry p.2))))) ∧
    ((∀ v ∈ vs, ∃ rs, parse (listing [v]) = .ok rs) → ¬ ((rulesApart vs).map Rule.id).Nodup →
      ∃ (pre : List Text) (id : Text) (post : List Text),
        (rulesApart vs).map Rule.id = pre ++ id :: post ∧ pre.Nodup ∧ id ∈ pre ∧
        parse (listing vs) = .error (.refused (.invalid
          [{ cause := .rule ("duplicate rule id: " ++ id.shown) }]))) := by
  refine ⟨⟨?_, ?_⟩, ?_, faultOf_listing vs, ?_, ?_, ?_⟩
  · rintro ⟨rs, hrs⟩
    obtain ⟨rules, hrules, hids, -⟩ := (parse_eq_ok (entries?_listing vs)).mp hrs
    rw [rulesApart_of_map hrules]
    exact ⟨fun v hv => exists_parse_single.mpr (Checked.exists_map_eq_ok.mp ⟨rules, hrules⟩ v hv),
      hids⟩
  · rintro ⟨hall, hids⟩
    exact ⟨_, (parse_eq_ok (entries?_listing vs)).mpr
      ⟨rulesApart vs, exists_map_of_forall hall, hids, rfl⟩⟩
  · intro rs hrs
    obtain ⟨rules, hrules, -, rfl⟩ := (parse_eq_ok (entries?_listing vs)).mp hrs
    rw [rulesApart_of_map hrules]
    refine ⟨fun v hv => ?_, perm_byPriority rules⟩
    obtain ⟨r, hr⟩ := Checked.exists_map_eq_ok.mp ⟨rules, hrules⟩ v hv
    exact ⟨r, parse_single_of_read hr⟩
  · rintro v - ⟨cs, hcs⟩
    exact faultOf_of_isWritable (Json.written_read? hcs).2
  · rintro ⟨v, hv, hno⟩ hfaults
    have hfails : ∃ v ∈ vs, (RuleDefinition.read v).isOk = false := by
      refine ⟨v, hv, Bool.eq_false_iff.mpr fun hok => ?_⟩
      obtain ⟨r, hr⟩ := isOk_eq_true.mp hok
      exact hno [r] (parse_single_of_read hr)
    have hparse := parse_listing_of_fails hfails
    -- no entry meets a fault by itself, so no issue stands for one
    have hnone : faultOf (listing vs) = none := by
      rw [faultOf_listing, List.findSome?_eq_none_iff]
      exact hfaults
    rw [faultOf_of_error hparse, List.findSome?_eq_none_iff] at hnone
    rw [← entryIssues_eq hfaults, ← problemOf_of_forall hnone]
    exact hparse
  · intro hall hids
    exact parse_listing_of_repeats (exists_map_of_forall hall) hids

/-- Two entries that are read by themselves, and whose names are one text written as a number and as
a text. -/
def oneTwice : List Value := [.record [("id", .int 1)], .record [("id", .text "1")]]

/-- A name written as a number repeats the same name written as a text. -/
theorem parse_listing_oneTwice :
    (∀ v ∈ oneTwice, ∃ rs, parse (listing [v]) = .ok rs) ∧
      parse (listing oneTwice)
        = .error (.refused (.invalid [{ cause := .rule "duplicate rule id: 1" }])) := by
  have hread : (oneTwice.all fun v => (parse (listing [v])).toOption.any fun _ => true) = true := by
    decide +kernel
  have hall : ∀ v ∈ oneTwice, ∃ rs, parse (listing [v]) = .ok rs := by
    intro v hv
    obtain ⟨rs, hrs, -⟩ := exists_of_toOption_any (List.all_eq_true.mp hread v hv)
    exact ⟨rs, hrs⟩
  have hids : (rulesApart oneTwice).map Rule.id = (["1", "1"] : List Text) := by decide +kernel
  obtain ⟨-, -, -, -, -, hrepeats⟩ := parse_listing oneTwice
  obtain ⟨pre, id, post, hsplit, -, hid, hparse⟩ := hrepeats hall (by rw [hids]; decide)
  -- all names are the same
  have hone : id ∈ (["1", "1"] : List Text) := by
    rw [← hids, hsplit]
    exact List.mem_append_left _ hid
  obtain rfl : id = "1" := by simpa using hone
  exact ⟨hall, hparse⟩

end RuleSet
end OfferRules

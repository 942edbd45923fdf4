import Mathlib.Data.Nat.Digits.Defs
import OfferRules.Proofs.Shape
import OfferRules.Proofs.ShortestDecimal

/-!
# Addresses in paths

A path writes an address: one segment for each step, which is the key of an entry or the place of an
item in decimal digits.  Following a path leads to a part of a value exactly if the segments name an
address of this part, and then it is the only address that they name.

The digits of a place may be of any script and may have zeros in front, but there must not be more
of them than are read.  So the path that joins the steps of an address leads to its part unless a
place in it has too many digits, which no list that fits into a memory has items for.

## Main definitions

* `decimalValue` — the number that decimal digits of any script write.
* `Value.Step.text`, `Value.pathOf` — a step and an address as texts.
* `Value.Step.IsWritten`, `Value.Step.IsNamed` — a segment writes a step, and names it.

## Main results

* `splitDots_intercalate` — joining segments is undone by splitting.
* `Value.child_eq_some_iff`, `Value.follow_eq_some_iff` — one segment and several.
* `Value.eq_of_isWritten` — no two addresses with parts are written by the same segments.
* `Value.resolve_addresses` — **paths address exactly the parts of a value.**
-/

namespace OfferRules

/-! ### Segments -/

theorem splitDots_eq_splitOn (ps : List CodePoint) :
    splitDots ps = ps.splitOn (.char '.') := by
  induction ps with
  | nil => rfl
  | cons p rest ih =>
    rw [splitDots, ih]
    unfold List.splitOn
    rw [List.splitOnP_cons_eq_if_modifyHead]
    by_cases hdot : p = .char '.'
    · rw [if_pos hdot, if_pos (beq_iff_eq.mpr hdot)]
    · rw [if_neg hdot, if_neg (by simpa using hdot)]
      cases hsegments : rest.splitOnP (· == .char '.') with
      | nil => exact absurd hsegments (List.splitOnP_ne_nil _ _)
      | cons segment more => rfl

/-- Segments without dots are found again in the text that joins them. -/
theorem splitDots_intercalate {segments : List (List CodePoint)} (hne : segments ≠ [])
    (hdots : ∀ segment ∈ segments, CodePoint.char '.' ∉ segment) :
    splitDots ([CodePoint.char '.'].intercalate segments) = segments := by
  rw [splitDots_eq_splitOn]
  exact List.splitOn_intercalate (.char '.') hdots hne

/-! ### Decimal digits -/

/-- The number that decimal digits of any script write. -/
def decimalValue (segment : List CodePoint) : Nat :=
  Nat.ofDigits 10 (segment.reverse.map fun p => (pointDigit? p).getD 0)

theorem decimalValue_eq_foldl (segment : List CodePoint) :
    decimalValue segment = segment.foldl (fun n p => 10 * n + (pointDigit? p).getD 0) 0 := by
  rw [decimalValue, Nat.ofDigits_eq_foldr, List.foldr_map, List.foldr_reverse]
  refine List.foldl_ext _ _ _ fun n c _ => ?_
  exact Nat.add_comm _ _

theorem digitValue?_of_isAsciiDigit {c : Char} (h : isAsciiDigit c = true) :
    digitValue? c = some (c.toNat - 48) := by
  have hrange : 48 ≤ c.toNat ∧ c.toNat < 58 := by
    simp only [isAsciiDigit, Bool.and_eq_true, decide_eq_true_eq] at h
    exact ⟨h.1, Nat.lt_succ_of_le h.2⟩
  -- the first zero of the table is that of ASCII
  have hfind : decimalZeros.find? (fun start => start ≤ c.toNat && c.toNat < start + 10)
      = some 48 := by
    simp [decimalZeros, hrange]
  rw [digitValue?, hfind]
  rfl

theorem isDecimalDigit_of_isAsciiDigit {c : Char} (h : isAsciiDigit c = true) :
    isDecimalDigit c = true := by
  rw [isDecimalDigit, digitValue?_of_isAsciiDigit h]
  rfl

theorem decimalValue_toDigits (n : Nat) :
    decimalValue ((Nat.toDigits 10 n).map .char) = n := by
  have hdigits : decimalValue ((Nat.toDigits 10 n).map .char)
      = natOfDigits (Nat.toDigits 10 n) := by
    rw [decimalValue_eq_foldl, natOfDigits, List.foldl_map]
    refine List.foldl_ext _ _ _ fun m c hc => ?_
    rw [pointDigit?, digitValue?_of_isAsciiDigit (Numeral.isAsciiDigit_of_mem_toDigits hc)]
    rfl
  rw [hdigits, Numeral.natOfDigits_toDigits]

theorem ne_nil_of_isDigits {segment : List CodePoint} (h : isDigits segment = true) :
    segment ≠ [] := by
  rintro rfl
  exact nomatch h

theorem isDigits_of_isDecimalDigit {segment : List CodePoint} (hne : segment ≠ [])
    (h : ∀ p ∈ segment, p.isChar isDecimalDigit = true) : isDigits segment = true := by
  simp only [isDigits, Bool.and_eq_true, List.all_eq_true]
  refine ⟨by simpa using hne, fun p hp => ?_⟩
  cases p with
  | char c =>
    have hdecimal : isDecimalDigit c = true := h _ hp
    rw [CodePoint.isChar, isDigit, hdecimal, Bool.true_or]
  | surrogate s => exact h _ hp

theorem segmentIndex_eq_ok_iff {segment : List CodePoint} {i : Nat} :
    segmentIndex segment = .ok i ↔
      (∀ p ∈ segment, p.isChar isDecimalDigit = true) ∧ segment.length ≤ numeralLimit ∧
        decimalValue segment = i := by
  rw [segmentIndex, ← List.all_eq_true, decimalValue_eq_foldl]
  by_cases hdecimal : segment.all (CodePoint.isChar isDecimalDigit) = true
  · rw [List.takeWhile_eq_self_iff.mpr (List.all_eq_true.mp hdecimal)]
    by_cases hlong : numeralLimit < segment.length
    · simp [hdecimal, hlong]
    · simp [hdecimal, hlong, Nat.le_of_not_lt hlong]
  · refine iff_of_false ?_ fun h => hdecimal h.1
    rw [if_neg hdecimal]
    split <;> exact nofun

namespace Value

/-! ### Steps -/

namespace Step

/-- A step as a text: the key, or the place in decimal digits. -/
def text : Step → Text
  | .key s => s
  | .place i => toString i

/-- A segment writes a step. -/
inductive IsWritten : List CodePoint → Step → Prop where
  /-- It is the key. -/
  | key (s : Text) : IsWritten s.points (.key s)
  /-- It writes the place in decimal digits. -/
  | place {segment : List CodePoint} (hne : segment ≠ [])
      (hdigits : ∀ p ∈ segment, p.isChar isDecimalDigit = true) :
      IsWritten segment (.place (decimalValue segment))

/-- A segment names a step: it writes the step, a place in no more digits than are read. -/
structure IsNamed (segment : List CodePoint) (step : Step) : Prop where
  /-- It writes the step. -/
  written : IsWritten segment step
  /-- It does not have too many digits. -/
  length_le : ∀ i, step = .place i → segment.length ≤ numeralLimit

theorem points_text_place (i : Nat) :
    (text (.place i)).points = (Nat.toDigits 10 i).map .char :=
  congrArg _ Nat.toList_repr

theorem isWritten_text (step : Step) : IsWritten step.text.points step := by
  cases step with
  | key s => exact .key s
  | place i =>
    have hplace : IsWritten ((Nat.toDigits 10 i).map .char)
        (.place (decimalValue ((Nat.toDigits 10 i).map .char))) := by
      refine .place (by simp [Nat.toDigits_ne_nil]) fun p hp => ?_
      obtain ⟨c, hc, rfl⟩ := List.mem_map.mp hp
      exact isDecimalDigit_of_isAsciiDigit (Numeral.isAsciiDigit_of_mem_toDigits hc)
    rw [decimalValue_toDigits] at hplace
    rwa [points_text_place]

/-- The text of a step names it unless it is a place of more digits than are read. -/
theorem isNamed_text_iff {step : Step} :
    IsNamed step.text.points step ↔ ∀ i, step = .place i → decimalLength i ≤ numeralLimit := by
  constructor
  · rintro hnamed i rfl
    have hlength := hnamed.length_le i rfl
    rwa [points_text_place, List.length_map] at hlength
  · intro h
    refine ⟨isWritten_text step, ?_⟩
    rintro i rfl
    rw [points_text_place, List.length_map]
    exact h i rfl

/-- There is no dot in a step, unless there is one in the key. -/
theorem dot_not_mem_text {step : Step} (h : ∀ s, step = .key s → CodePoint.char '.' ∉ s.points) :
    CodePoint.char '.' ∉ step.text.points := by
  cases step with
  | key s => exact h s rfl
  | place i =>
    rw [points_text_place]
    intro hdot
    obtain ⟨c, hc, hdot⟩ := List.mem_map.mp hdot
    obtain rfl := CodePoint.char.inj hdot
    exact absurd (Numeral.isAsciiDigit_of_mem_toDigits hc) (by decide)

end Step

/-- An address as a text: its steps, with dots between them. -/
def pathOf (address : List Step) : Text := .joined "." (address.map Step.text)

theorem splitDots_pathOf {address : List Step} (hne : address ≠ [])
    (hdots : ∀ s, .key s ∈ address → CodePoint.char '.' ∉ s.points) :
    splitDots (pathOf address).points = address.map (·.text.points) := by
  rw [pathOf, Text.points_joined, List.map_map]
  refine splitDots_intercalate ?_ ?_
  · simpa using hne
  · rintro segment hsegment
    obtain ⟨step, hstep, rfl⟩ := List.mem_map.mp hsegment
    exact Step.dot_not_mem_text fun s hs => hdots s (hs ▸ hstep)

/-! ### Following segments -/

@[simp] theorem part?_set (members : List Atom) (step : Step) :
    (Value.set members).part? step = none := by
  cases step <;> rfl

@[simp] theorem part?_pair (a b : Value) (step : Step) : (Value.pair a b).part? step = none := by
  cases step <;> rfl

/-- A value with keys has no places. -/
theorem part?_place_of_key {v x : Value} {s : Text} (h : v.part? (.key s) = some x) (i : Nat) :
    v.part? (.place i) = none := by
  cases v with
  | map entries => rfl
  | list items => exact nomatch h
  | atom a => exact nomatch h
  | set members => exact nomatch h
  | pair a b => exact nomatch h

/-- The part that a segment leads to is at a step that it names. -/
theorem child_eq_some_iff {segment : List CodePoint} {v part : Value} :
    v.child segment = .ok (some part) ↔
      ∃ step, Step.IsNamed segment step ∧ v.part? step = some part := by
  cases v with
  | map entries =>
    constructor
    · intro h
      have hwritten := Step.IsWritten.key (.ofPoints segment)
      rw [Text.points_ofPoints] at hwritten
      exact ⟨_, ⟨hwritten, nofun⟩, Except.ok.inj h⟩
    · rintro ⟨step, ⟨hwritten, -⟩, hpart⟩
      cases hwritten with
      | key s =>
        rw [child, Text.ofPoints_points]
        exact congrArg Except.ok hpart
      | place => exact nomatch hpart
  | list items =>
    rw [child_list_eq_some]
    constructor
    · rintro ⟨hdigits, i, hindex, hitem⟩
      obtain ⟨hdecimal, hlength, rfl⟩ := segmentIndex_eq_ok_iff.mp hindex
      exact ⟨_, ⟨.place (ne_nil_of_isDigits hdigits) hdecimal, fun _ _ => hlength⟩, hitem⟩
    · rintro ⟨step, ⟨hwritten, hlength⟩, hpart⟩
      cases hwritten with
      | key s => exact nomatch hpart
      | place hne hdecimal =>
        exact ⟨isDigits_of_isDecimalDigit hne hdecimal, _,
          segmentIndex_eq_ok_iff.mpr ⟨hdecimal, hlength _ rfl, rfl⟩, hpart⟩
  | atom a => simp [child]
  | set members => simp [child]
  | pair a b => simp [child]

/-- A segment writes no two steps that both lead to a part. -/
theorem Step.IsWritten.unique {segment : List CodePoint} {a b : Step} (ha : IsWritten segment a)
    (hb : IsWritten segment b) {v x y : Value} (hx : v.part? a = some x)
    (hy : v.part? b = some y) : a = b := by
  generalize hsegment : segment = other at hb
  cases ha with
  | key s =>
    cases hb with
    | key t => rw [Text.points_injective hsegment]
    | place =>
      rw [part?_place_of_key hx] at hy
      exact nomatch hy
  | place =>
    cases hb with
    | place => rw [hsegment]
    | key t =>
      rw [part?_place_of_key hy] at hx
      exact nomatch hx

/-- Segments write no two addresses that both have a part. -/
theorem eq_of_isWritten {segments : List (List CodePoint)} {a b : List Step} {v x y : Value}
    (ha : List.Forall₂ Step.IsWritten segments a) (hb : List.Forall₂ Step.IsWritten segments b)
    (hx : v.at? a = some x) (hy : v.at? b = some y) : a = b := by
  induction ha generalizing b v with
  | nil =>
    cases hb
    rfl
  | cons hstep _ ih =>
    obtain ⟨step', rest', hstep', hrest', rfl⟩ := List.forall₂_cons_left_iff.mp hb
    obtain ⟨part, hpart, hat⟩ := Option.bind_eq_some_iff.mp hx
    obtain ⟨part', hpart', hat'⟩ := Option.bind_eq_some_iff.mp hy
    obtain rfl := hstep.unique hstep' hpart hpart'
    obtain rfl := Option.some.inj (hpart.symm.trans hpart')
    rw [ih hrest' hat hat']

theorem forall₂_isWritten {segments : List (List CodePoint)} {address : List Step}
    (h : List.Forall₂ Step.IsNamed segments address) :
    List.Forall₂ Step.IsWritten segments address :=
  h.imp fun _ _ hnamed => hnamed.written

/-- The part that segments lead to is at an address that they name. -/
theorem follow_eq_some_iff {segments : List (List CodePoint)} {v node : Value} :
    v.follow segments = .ok (some node) ↔
      ∃ address, List.Forall₂ Step.IsNamed segments address ∧ v.at? address = some node := by
  induction segments generalizing v with
  | nil => simp [follow]
  | cons segment rest ih =>
    rw [follow_cons_eq_some]
    constructor
    · rintro ⟨part, hchild, hrest⟩
      obtain ⟨step, hnamed, hpart⟩ := child_eq_some_iff.mp hchild
      obtain ⟨address, haddress, hat⟩ := ih.mp hrest
      refine ⟨step :: address, .cons hnamed haddress, ?_⟩
      rw [at?_cons, hpart]
      exact hat
    · rintro ⟨address, haddress, hat⟩
      obtain ⟨step, steps, hnamed, hsteps, rfl⟩ := List.forall₂_cons_left_iff.mp haddress
      obtain ⟨part, hpart, hrest⟩ := Option.bind_eq_some_iff.mp hat
      exact ⟨part, child_eq_some_iff.mpr ⟨step, hnamed, hpart⟩, ih.mpr ⟨steps, hsteps, hrest⟩⟩

theorem resolve_eq_some_iff {path : Text} {v node : Value} :
    v.resolve path = .ok (some node) ↔ ∃ address,
      List.Forall₂ Step.IsNamed (splitDots path.points) address ∧ v.at? address = some node :=
  follow_eq_some_iff

/-- **Paths address exactly the parts of a value.**  The steps of an address that is not empty,
joined by dots, lead to the part at this address, provided that the keys are without dots; only a
place of more digits than are read is not found.  And whatever a path leads to is the part at one
address, whose steps the segments of the path name one by one. -/
theorem resolve_addresses (d : Value) :
    (∀ (address : List Step) (node : Value), address ≠ [] →
        (∀ s, .key s ∈ address → CodePoint.char '.' ∉ s.points) → d.at? address = some node →
        (d.resolve (pathOf address) = .ok (some node) ↔
          ∀ i, .place i ∈ address → decimalLength i ≤ numeralLimit)) ∧
      (∀ (path : Text) (node : Value), d.resolve path = .ok (some node) ↔
        ∃! address, List.Forall₂ Step.IsNamed (splitDots path.points) address ∧
          d.at? address = some node) := by
  refine ⟨?_, ?_⟩
  · intro address node hne hdots hat
    rw [resolve_eq_some_iff, splitDots_pathOf hne hdots]
    constructor
    · -- the texts of the steps write this address only, so it is the one that they name
      rintro ⟨named, hnamed, hnode⟩ i hi
      have hwritten : List.Forall₂ Step.IsWritten (address.map (·.text.points)) address := by
        rw [List.forall₂_map_left_iff, List.forall₂_same]
        exact fun step _ => Step.isWritten_text step
      obtain rfl := eq_of_isWritten (forall₂_isWritten hnamed) hwritten hnode hat
      rw [List.forall₂_map_left_iff, List.forall₂_same] at hnamed
      exact Step.isNamed_text_iff.mp (hnamed _ hi) i rfl
    · intro hplaces
      refine ⟨address, ?_, hat⟩
      rw [List.forall₂_map_left_iff, List.forall₂_same]
      exact fun step hstep => Step.isNamed_text_iff.mpr fun i hi => hplaces i (hi ▸ hstep)
  · intro path node
    rw [resolve_eq_some_iff]
    constructor
    · rintro ⟨address, hnamed, hat⟩
      refine ⟨address, ⟨hnamed, hat⟩, ?_⟩
      rintro other ⟨hother, hnode⟩
      exact eq_of_isWritten (forall₂_isWritten hother) (forall₂_isWritten hnamed) hnode hat
    · rintro ⟨address, haddress, -⟩
      exact ⟨address, haddress⟩

end Value

/-- A player with a list of mappings, keys that look like places and an empty key. -/
def Sample.nested : Value :=
  .record [("purchases", .list [.null, .record [("7", .record [("", .text "gold")])]])]

/-- A key that is empty and one that looks like a place are found behind a place. -/
theorem Value.resolve_addresses_nested :
    Sample.nested.at? [.key "purchases", .place 1, .key "7", .key ""] = some (.text "gold") ∧
      Sample.nested.resolve "purchases.1.7." = .ok (some (.text "gold")) := by
  have hat : Sample.nested.at? [.key "purchases", .place 1, .key "7", .key ""]
      = some (.text "gold") := by
    simp [Sample.nested, record, at?_cons, Entries.get?, Atom.same, Atom.number?]
  have hpath : pathOf [.key "purchases", .place 1, .key "7", .key ""] = "purchases.1.7." := by
    decide
  refine ⟨hat, ?_⟩
  rw [← hpath]
  refine ((resolve_addresses Sample.nested).1 _ _ (by simp) (by simp) hat).mpr ?_
  intro i hi
  obtain rfl : i = 1 := by simpa using hi
  decide

end OfferRules

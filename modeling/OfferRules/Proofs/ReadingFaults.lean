import OfferRules.Proofs.Entries
import OfferRules.Proofs.Issues
import OfferRules.Proofs.JsonReading
import OfferRules.RuleSet.Definition

/-!
# Faults met while reading

A rule is read without a fault unless a whole number in it has too many digits to be written and
stands where a text is asked for.  A JSON document holds no such number.

## Main definitions

* `Checked.NoFault` — no fault is met while something is read.

## Main results

* `Checked.noFault_ap`, `Checked.noFault_items` — parts and lists that are read without a fault.
* `RuleDefinition.noFault_read` — **rules are read without a fault**, if their numbers have texts.
-/

namespace OfferRules

variable {α β : Type}

namespace Checked

/-- No fault is met while something is read: none of the issues found stands for one. -/
def NoFault (x : Checked α) : Prop := ∀ i ∈ issues x, i.fault? = none

theorem noFault_ok (a : α) : NoFault (.ok a) := nofun

theorem noFault_fail {cause : Issue.Cause} (h : ∀ f, cause ≠ .fault f) :
    NoFault (.fail cause : Checked α) := by
  intro i hi
  obtain rfl := List.mem_singleton.mp hi
  cases cause with
  | fault f => exact absurd rfl (h f)
  | _ => rfl

theorem noFault_ap {f : Checked (α → β)} {x : Checked α} (hf : NoFault f) (hx : NoFault x) :
    NoFault (ap f x) := by
  intro i hi
  rw [issues_ap, List.mem_append] at hi
  exact hi.elim (hf i) (hx i)

theorem noFault_map (f : α → β) {x : Checked α} (hx : NoFault x) : NoFault (x.map f) := by
  intro i hi
  rw [issues_map] at hi
  exact hx i hi

/-- An issue stands for the same fault wherever it is seen from. -/
theorem noFault_under (step : Step) {x : Checked α} (hx : NoFault x) : NoFault (under step x) := by
  intro i hi
  rw [issues_under] at hi
  obtain ⟨i', hi', rfl⟩ := List.mem_map.mp hi
  exact hx i' hi'

theorem noFault_items {read : Value → Checked α} {vs : List Value}
    (h : ∀ v ∈ vs, NoFault (read v)) : NoFault (items read vs) := by
  intro i hi
  rw [issues_items] at hi
  obtain ⟨p, hp, hi⟩ := List.mem_flatMap.mp hi
  obtain ⟨i', hi', rfl⟩ := List.mem_map.mp hi
  exact h p.1 (List.fst_mem_of_mem_zipIdx hp) i' hi'

end Checked

open Checked

/-! ### Scalars -/

theorem noFault_textOfNumber {n : Number} (h : (Atom.number n).isWritable = true) :
    NoFault (textOfNumber n) := by
  rw [textOfNumber, if_pos h]
  exact noFault_ok _

/-- A text is read without a fault, unless it is that of a number with too many digits. -/
theorem noFault_readText {numbers : Bool} {v : Value}
    (h : numbers = true → v.isWritable = true) : NoFault (readText numbers v) := by
  unfold readText
  split
  · exact noFault_ok _
  · split
    · exact noFault_ok _
    · exact noFault_fail nofun
  · next n =>
    split
    · next hnumbers => exact noFault_textOfNumber (h hnumbers)
    · exact noFault_fail nofun
  · exact noFault_fail nofun

/-- Nothing is read in a torn text, which is an issue and no fault. -/
theorem noFault_inString {read : String → Checked α} (h : ∀ s, NoFault (read s)) (t : Text) :
    NoFault (inString read t) := by
  cases t with
  | whole s => exact h s
  | torn before s after => exact noFault_fail nofun

theorem noFault_integerInText (cs : List Char) : NoFault (integerInText cs) := by
  unfold integerInText
  split
  · exact noFault_fail nofun
  · dsimp only
    split
    · exact noFault_fail nofun
    · split
      · exact noFault_ok _
      · exact noFault_fail nofun

theorem noFault_integerOfDouble (d : Double) : NoFault (integerOfDouble d) := by
  unfold integerOfDouble
  split
  · exact noFault_fail nofun
  · split
    · exact noFault_fail nofun
    · split
      · exact noFault_ok _
      · exact noFault_fail nofun

theorem noFault_readInteger (v : Value) : NoFault (readInteger v) := by
  unfold readInteger
  split
  · exact noFault_ok _
  · exact noFault_ok _
  · exact noFault_integerOfDouble _
  · exact noFault_inString (fun s => noFault_integerInText s.toList) _
  · split
    · exact noFault_integerInText _
    · exact noFault_fail nofun
  · exact noFault_fail nofun

theorem noFault_doubleInText (cs : List Char) : NoFault (doubleInText cs) := by
  unfold doubleInText
  split
  · exact noFault_ok _
  · exact noFault_fail nofun

theorem noFault_doubleOfInteger (n : Int) : NoFault (doubleOfInteger n) := by
  unfold doubleOfInteger
  cases Double.ofInt? n with
  | some d => exact noFault_ok d
  | none => exact noFault_fail nofun

theorem noFault_readDouble (v : Value) : NoFault (readDouble v) := by
  unfold readDouble
  split
  · exact noFault_ok _
  · exact noFault_doubleOfInteger _
  · exact noFault_ok _
  · exact noFault_inString (fun s => noFault_doubleInText s.toList) _
  · split
    · exact noFault_doubleInText _
    · exact noFault_fail nofun
  · exact noFault_fail nofun

theorem noFault_readNumber (v : Value) : NoFault (readNumber v) := by
  have hinteger := noFault_readInteger v
  have hdouble := noFault_readDouble v
  unfold readNumber
  split
  · exact noFault_ok _
  · split
    · exact noFault_ok _
    · exact noFault_ok _
    · next e e' he he' =>
      rw [he] at hinteger
      rw [he'] at hdouble
      exact noFault_ap (noFault_under _ hinteger) (noFault_under _ hdouble)

theorem noFault_momentInText (bytes : List UInt8) : NoFault (momentInText bytes) := by
  unfold momentInText
  split
  · exact noFault_ok _
  · exact noFault_fail nofun
  · exact noFault_fail nofun

theorem noFault_momentOfCount (r : Except MomentProblem DateTime) : NoFault (momentOfCount r) := by
  unfold momentOfCount
  split
  · exact noFault_ok _
  · exact noFault_fail nofun

theorem noFault_readMoment (v : Value) : NoFault (readMoment v) := by
  unfold readMoment
  split
  · exact noFault_ok _
  · exact noFault_ok _
  · exact noFault_inString (fun s => noFault_momentInText s.toUTF8.toList) _
  · exact noFault_momentInText _
  · split
    · exact noFault_momentOfCount _
    · split
      · exact noFault_momentOfCount _
      · exact noFault_fail nofun
  · exact noFault_momentOfCount _
  · exact noFault_fail nofun

/-! ### Containers -/

theorem noFault_readList {read : Value → Checked α} (h : ∀ v, NoFault (read v)) (v : Value) :
    NoFault (readList read v) := by
  unfold readList
  split
  · exact noFault_items fun v _ => h v
  · exact noFault_items fun v _ => h v
  · exact noFault_items fun v _ => h v
  · exact noFault_fail nofun

theorem noFault_readNullable {read : Value → Checked α} {v : Value} (h : NoFault (read v)) :
    NoFault (readNullable read v) := by
  unfold readNullable
  split
  · exact noFault_ok _
  · exact noFault_map _ h

theorem noFault_readRecord {definition : String} {read : Entries → Checked α}
    (h : ∀ es, NoFault (read es)) (v : Value) : NoFault (readRecord definition read v) := by
  unfold readRecord
  split
  · exact h _
  · exact noFault_fail nofun

namespace Field

theorem mem_of_find? {names : List Text} {es : Entries} {name : Text} {v : Value}
    (h : find? names es = some (name, v)) : ∃ k, (k, v) ∈ es := by
  obtain ⟨name', -, hget⟩ := List.exists_of_findSome?_eq_some h
  obtain ⟨w, hw, heq⟩ := Option.map_eq_some_iff.mp hget
  obtain ⟨-, rfl⟩ := Prod.mk.inj heq
  exact Entries.mem_of_get? hw

variable {names : List Text} {read : Value → Checked α} {es : Entries}

theorem noFault_required (h : ∀ p ∈ es, NoFault (read p.2)) : NoFault (required names read es) := by
  unfold required
  split
  · next name v hv =>
    obtain ⟨k, hk⟩ := mem_of_find? hv
    exact noFault_under _ (h _ hk)
  · exact noFault_under _ (noFault_fail nofun)

theorem noFault_optional {default : α} (h : ∀ p ∈ es, NoFault (read p.2)) :
    NoFault (optional names default read es) := by
  unfold optional
  split
  · next name v hv =>
    obtain ⟨k, hk⟩ := mem_of_find? hv
    exact noFault_under _ (h _ hk)
  · exact noFault_ok _

end Field

/-! ### Definitions -/

theorem ConditionDefinition.noFault_read (v : Value) : NoFault (read v) := by
  refine noFault_readRecord (fun es => ?_) v
  refine noFault_ap (noFault_ap (noFault_map _ (Field.noFault_required fun p _ => ?_))
    (Field.noFault_required fun p _ => ?_)) (Field.noFault_optional fun p _ => ?_)
  · exact noFault_readText nofun
  · exact noFault_readText nofun
  · exact noFault_ok _

theorem TimeWindowDefinition.noFault_read (v : Value) : NoFault (read v) := by
  refine noFault_readRecord (fun es => ?_) v
  refine noFault_ap (noFault_map _ (Field.noFault_optional fun p _ => ?_))
    (Field.noFault_optional fun p _ => ?_)
  · exact noFault_readNullable (noFault_readMoment _)
  · exact noFault_readNullable (noFault_readMoment _)

theorem Promotion.noFault_entries {es : List (Atom × Value)}
    (h : ∀ p ∈ es, p.1.isWritable = true) : NoFault (entries es) := by
  induction es with
  | nil => exact noFault_ok _
  | cons p rest ih =>
    obtain ⟨k, v⟩ := p
    rw [List.forall_mem_cons] at h
    have hkey : NoFault (readText true (.atom k)) := noFault_readText fun _ => by
      simpa [Value.isWritable] using h.1
    exact noFault_ap (noFault_map _ (noFault_under _ (noFault_under _ hkey))) (ih h.2)

theorem Promotion.noFault_read {v : Value} (h : v.isWritable = true) : NoFault (read v) := by
  unfold read
  split
  · next es =>
    have hes : Value.entriesWritable es = true := by simpa [Value.isWritable] using h
    exact noFault_map _ (noFault_entries fun p hp => (Value.entriesWritable_iff.mp hes p hp).1)
  · exact noFault_fail nofun

/-- **Rules are read without a fault** where no whole number has too many digits to be written. -/
theorem RuleDefinition.noFault_read {v : Value} (h : v.isWritable = true) : NoFault (read v) := by
  unfold read readRecord
  split
  · next es =>
    have hes : Value.entriesWritable es = true := by simpa [Value.isWritable] using h
    have hvalues : ∀ p ∈ es, p.2.isWritable = true := fun p hp =>
      (Value.entriesWritable_iff.mp hes p hp).2
    unfold fields
    refine noFault_ap (noFault_ap (noFault_ap (noFault_ap (noFault_ap (noFault_ap
      (noFault_map _ (Field.noFault_required fun p hp => ?id))
      (Field.noFault_optional fun p hp => ?priority))
      (Field.noFault_optional fun p hp => ?logic))
      (Field.noFault_optional fun p hp => ?conditions))
      (Field.noFault_optional fun p hp => ?window))
      (Field.noFault_optional fun p hp => ?promotion))
      (Field.noFault_optional fun p hp => ?weight)
    case id => exact noFault_readText fun _ => hvalues p hp
    case priority => exact noFault_readNullable (noFault_readNumber _)
    case logic => exact noFault_readNullable (noFault_readText fun _ => hvalues p hp)
    case conditions =>
      exact noFault_readNullable (noFault_readList ConditionDefinition.noFault_read _)
    case window => exact noFault_readNullable (TimeWindowDefinition.noFault_read _)
    case promotion => exact noFault_readNullable (Promotion.noFault_read (hvalues p hp))
    case weight => exact noFault_readNullable (noFault_readDouble _)
  · exact noFault_fail nofun

end OfferRules

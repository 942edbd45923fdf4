import OfferRules.Proofs.Outcome
import OfferRules.Yaml.Node.Value

/-!
# Faults of scalars

A scalar that announces a truth value, a number or a date and writes none ends in a fault, of which
there are a few for each of these kinds.  No other scalar does, and merges do not.

## Main definitions

* `Yaml.ScalarFault`, `Yaml.FaultsAs` — the faults by the tag, and outcomes with no others.

## Main results

* `Yaml.faultsAs_atom` — the faults of a scalar under a tag.
* `Yaml.Node.faultsAs_atom`, `Yaml.Node.faultsAs_key` — **the faults of a node that is no
  collection.**
* `Yaml.Node.ownEntries_error` — what is wrong with a merge.
-/

namespace OfferRules.Yaml

variable {α β : Type}

/-- The faults that a scalar may end in under a tag. -/
inductive ScalarFault : Tag → Fault → Prop where
  /-- A word is none for a truth value. -/
  | word (w : Text) : ScalarFault .bool (.missingKey w)
  /-- A whole number has nothing but a sign. -/
  | emptyInt : ScalarFault .int .emptyNumeral
  /-- A whole number has something other than digits. -/
  | int (base : Nat) (text : Text) : ScalarFault .int (.badInteger base text)
  /-- A whole number has too many digits. -/
  | longInt {digits : Nat} (h : numeralLimit < digits) : ScalarFault .int (.longNumeral digits)
  /-- A double has nothing but a sign. -/
  | emptyFloat : ScalarFault .float .emptyNumeral
  /-- A double is not well written. -/
  | float (text : Text) : ScalarFault .float (.badDouble text)
  /-- A double has too many steps of sixty. -/
  | steps : ScalarFault .float .overflow
  /-- A text is no date and no reading. -/
  | timestamp : ScalarFault .timestamp .noTimestamp
  /-- A mapping stands in the place of a date or a reading. -/
  | mapping : ScalarFault .timestamp .noText
  /-- There is no such date or reading. -/
  | calendar (cause : CalendarError) : ScalarFault .timestamp (.calendar cause)
  /-- A reading is a day or more ahead of universal time, or behind it. -/
  | offset (micros : Int) : ScalarFault .timestamp (.badOffset micros)

/-- The fault of an outcome, if it has one, is one of a scalar under a tag. -/
def FaultsAs (tag : Tag) (x : Except Problem α) : Prop :=
  ∀ e, x = .error (.fault e) → ScalarFault tag e

section Outcomes

variable {tag : Tag}

theorem faultsAs_ok (a : α) : FaultsAs tag (.ok a) := nofun

theorem faultsAs_defect (d : Defect) : FaultsAs tag (.error (.defect d) : Except Problem α) := nofun

theorem faultsAs_fault {e : Fault} (h : ScalarFault tag e) :
    FaultsAs tag (.error (.fault e) : Except Problem α) := by
  rintro _ ⟨⟩
  exact h

theorem faultsAs_bind {x : Except Problem α} {f : α → Except Problem β} (hx : FaultsAs tag x)
    (hf : ∀ a, FaultsAs tag (f a)) : FaultsAs tag (x >>= f) := by
  cases x with
  | ok a => exact hf a
  | error p =>
    rintro e ⟨⟩
    exact hx e rfl

theorem faultsAs_map {x : Except Problem α} (f : α → β) (hx : FaultsAs tag x) :
    FaultsAs tag (x.map f) :=
  faultsAs_bind hx fun a => faultsAs_ok (f a)

theorem faultsAs_mapM {f : α → Except Problem β} (hf : ∀ a, FaultsAs tag (f a)) (as : List α) :
    FaultsAs tag (as.mapM f) := by
  induction as with
  | nil => exact faultsAs_ok []
  | cons a as ih =>
    rw [List.mapM_cons]
    exact faultsAs_bind (hf a) fun _ => faultsAs_bind ih fun _ => faultsAs_ok _

theorem faultsAs_foldlM {f : β → α → Except Problem β} (hf : ∀ b a, FaultsAs tag (f b a))
    (as : List α) (b : β) : FaultsAs tag (as.foldlM f b) := by
  induction as generalizing b with
  | nil => exact faultsAs_ok b
  | cons a as ih =>
    rw [List.foldlM_cons]
    exact faultsAs_bind (hf b a) ih

end Outcomes

/-! ### Kinds of scalars -/

theorem faultsAs_signed {tag : Tag} (h : ScalarFault tag .emptyNumeral) (ps : List CodePoint) :
    FaultsAs tag (signed ps) := by
  unfold signed
  split
  · exact faultsAs_fault h
  · exact faultsAs_ok _
  · exact faultsAs_ok _
  · exact faultsAs_ok _

theorem faultsAs_parseWhole (base : Nat) (t : Text) :
    FaultsAs .int (faulty (parseWhole base t)) := by
  unfold parseWhole
  dsimp only
  -- The three signs: minus, plus and none.
  split
  all_goals
    split
    · next hlong =>
      rw [Bool.and_eq_true, decide_eq_true_iff, decide_eq_true_iff] at hlong
      exact faultsAs_fault (.longInt hlong.2)
    · split
      · exact faultsAs_fault (.int base t)
      · exact faultsAs_ok _

theorem faultsAs_magnitude (ps : List CodePoint) : FaultsAs .int (magnitude ps) := by
  unfold magnitude
  split
  · exact faultsAs_fault .emptyInt
  · exact faultsAs_ok _
  · exact faultsAs_parseWhole _ _
  · exact faultsAs_parseWhole _ _
  · exact faultsAs_parseWhole _ _
  · split
    · exact faultsAs_bind (faultsAs_mapM (fun _ => faultsAs_parseWhole _ _) _) fun _ =>
        faultsAs_ok _
    · exact faultsAs_parseWhole _ _

theorem faultsAs_wholeNumber (t : Text) : FaultsAs .int (wholeNumber t) :=
  faultsAs_bind (faultsAs_signed .emptyInt _) fun _ =>
    faultsAs_bind (faultsAs_magnitude _) fun _ => faultsAs_ok _

theorem faultsAs_parseDouble (t : Text) : FaultsAs .float (faulty (parseDouble t)) := by
  unfold parseDouble
  split
  · exact faultsAs_ok _
  · exact faultsAs_fault (.float t)

theorem faultsAs_addStep (sum : Double × Nat) (part : Double) :
    FaultsAs .float (addStep sum part) := by
  unfold addStep
  cases Double.ofInt? sum.2 with
  | some factor => exact faultsAs_ok _
  | none => exact faultsAs_fault .steps

theorem faultsAs_doubleSize (ps : List CodePoint) : FaultsAs .float (doubleSize ps) := by
  unfold doubleSize
  split
  · exact faultsAs_ok _
  split
  · exact faultsAs_ok _
  split
  · exact faultsAs_bind (faultsAs_mapM (fun _ => faultsAs_parseDouble _) _) fun _ =>
      faultsAs_bind (faultsAs_foldlM faultsAs_addStep _ _) fun _ => faultsAs_ok _
  · exact faultsAs_parseDouble _

theorem faultsAs_double (t : Text) : FaultsAs .float (double t) :=
  faultsAs_bind (faultsAs_signed .emptyFloat _) fun _ =>
    faultsAs_bind (faultsAs_doubleSize _) fun _ => faultsAs_ok _

theorem faultsAs_truth (t : Text) : FaultsAs .bool (truth t) := by
  unfold truth
  split
  · exact faultsAs_ok _
  · exact faultsAs_fault (.word _)

theorem faultsAs_checked (x : Except CalendarError α) : FaultsAs .timestamp (Stamp.checked x) := by
  cases x with
  | ok a => exact faultsAs_ok a
  | error cause => exact faultsAs_fault (.calendar cause)

theorem faultsAs_stamp (s : Stamp) : FaultsAs .timestamp s.atom := by
  unfold Stamp.atom
  split
  · exact faultsAs_map _ (faultsAs_checked _)
  · next t _ =>
    have hreading : FaultsAs .timestamp (do
        let date ← Stamp.checked (Date.make? s.year s.month s.day)
        return Atom.dateTime (← Stamp.checked (DateTime.make? date t.hour t.minute t.second
          (Stamp.micros t.fraction) (t.offset.map (· * microsPerMinute))))) :=
      faultsAs_bind (faultsAs_checked _) fun _ =>
        faultsAs_bind (faultsAs_checked _) fun _ => faultsAs_ok _
    dsimp only
    split
    · split
      · exact faultsAs_bind (faultsAs_fault (.offset _)) fun _ => hreading
      · exact hreading
    · exact hreading

theorem faultsAs_moment (t : Text) : FaultsAs .timestamp (moment t) := by
  unfold moment
  split
  · exact faultsAs_stamp _
  · exact faultsAs_fault .timestamp

theorem faultsAs_decode (cs : List Char) : FaultsAs .binary (Base64.decode cs) := by
  unfold Base64.decode
  split
  · split
    · exact faultsAs_ok _
    · exact faultsAs_defect _
  · exact faultsAs_defect _

theorem faultsAs_bytes (t : Text) : FaultsAs .binary (bytes t) := by
  cases t with
  | whole s => exact faultsAs_decode _
  | torn before s after => exact faultsAs_defect _

/-- The faults of a scalar under a tag. -/
theorem faultsAs_atom (tag : Tag) (t : Text) : FaultsAs tag (Yaml.atom tag t) := by
  cases tag with
  | bool => exact faultsAs_map _ (faultsAs_truth t)
  | int => exact faultsAs_map _ (faultsAs_wholeNumber t)
  | float => exact faultsAs_map _ (faultsAs_double t)
  | binary => exact faultsAs_map _ (faultsAs_bytes t)
  | timestamp => exact faultsAs_moment t
  | null | str => exact faultsAs_ok _
  | _ => exact faultsAs_defect _

namespace Node

theorem scalarText_ne_fault (fuel : Nat) (n : Node) (e : Fault) :
    n.scalarText fuel ≠ .error (.fault e) := by
  induction fuel generalizing n with
  | zero => cases n <;> exact nofun
  | succ fuel ih =>
    cases n with
    | map tag entries =>
      rw [scalarText]
      split
      · exact ih _
      · exact nofun
    | _ => exact nofun

theorem faultsAs_atomOfText (n : Node) (text : Text) : FaultsAs n.tag (n.atomOfText text) := by
  unfold atomOfText
  split
  · exact faultsAs_fault .mapping
  · exact Yaml.faultsAs_atom _ text

/-- The fault of a node that is no collection is one of a scalar under its tag. -/
theorem faultsAs_atom (n : Node) : FaultsAs n.tag n.atom := by
  have hvalue : FaultsAs n.tag (n.scalarText n.depth >>= n.atomOfText) :=
    faultsAs_bind (fun e he => absurd he (scalarText_ne_fault _ _ e)) n.faultsAs_atomOfText
  unfold atom
  generalize n.tag = tag at hvalue ⊢
  cases tag with
  | other | merge | value => exact faultsAs_defect _
  | _ => exact hvalue

mutual

/-- What is wrong with a merge is that there is something other than mappings. -/
theorem ownEntries_error (n : Node) (p : Problem) (h : n.ownEntries = .error p) :
    p = .defect .merge := by
  match n with
  | .map _ entries =>
    rw [ownEntries] at h
    exact mergedEntries_error entries p (map_eq_error.mp h)
  | .scalar _ _ => exact (Except.error.inj h).symm
  | .seq _ _ => exact (Except.error.inj h).symm
termination_by structural n

theorem mergedEntries_error (entries : List (Node × Node)) (p : Problem)
    (h : mergedEntries entries = .error p) : p = .defect .merge := by
  match entries with
  | [] => cases h
  | (k, v) :: rest =>
    have hsource := mergeSource_error v
    have hrest := mergedEntries_error rest p
    unfold mergedEntries at h
    split at h
    · split at h
      · next q hq =>
        obtain rfl := Except.error.inj h
        exact hsource _ hq
      · exact hrest (map_eq_error.mp h)
    · split at h
      · exact hrest (map_eq_error.mp h)
      · exact hrest (map_eq_error.mp h)
    · exact hrest (map_eq_error.mp h)
termination_by structural entries

theorem mergeSource_error (n : Node) (p : Problem) (h : n.mergeSource = .error p) :
    p = .defect .merge := by
  match n with
  | .map _ entries =>
    rw [mergeSource] at h
    exact mergedEntries_error entries p (map_eq_error.mp h)
  | .seq _ items =>
    rw [mergeSource] at h
    exact mergeItems_error items p h
  | .scalar _ _ => exact (Except.error.inj h).symm
termination_by structural n

theorem mergeItems_error (items : List Node) (p : Problem) (h : mergeItems items = .error p) :
    p = .defect .merge := by
  match items with
  | [] => cases h
  | n :: rest =>
    have hfirst := ownEntries_error n
    have hrest := mergeItems_error rest p
    rw [mergeItems] at h
    split at h
    · next q hq =>
      obtain rfl := Except.error.inj h
      exact hfirst _ hq
    · exact hrest (map_eq_error.mp h)
termination_by structural items

end

end Node

end OfferRules.Yaml

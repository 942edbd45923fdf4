import OfferRules.Json.Bytes
import OfferRules.Proofs.Outcome
import OfferRules.Proofs.Utf8Text

/-!
# How deep a document is read

A reader that may follow lists and objects only to some depth either says that the depth did not
suffice, or it reads what any other reader reads that may go deeper.  A depth greater than the
length of the text always suffices, so that there is one value of a document, which some reader
gets and none contradicts.  No depth suffices for all documents: a body of opening brackets is too
deep for each reader that may follow fewer lists than it opens.

## Main definitions

* `Json.Leaves`, `Json.Agrees` — how much is left to read, and that two readings do not differ.
* `Json.readBytes?` — the value of a document in bytes, however deep it is.
* `Json.isTooDeep` — whether a document is too deep for a reader.

## Main results

* `Json.read_ne_nesting` — a depth greater than the length of the text suffices.
* `Json.agrees_read` — a reader that may go deeper agrees.
* `Json.read?_eq_some_iff` — **the value of a document is what some reader gets.**
* `Json.toOption_readBytes` — **a reader gets the value of a document that is not too deep for it.**
* `Json.isTooDeep_brackets` — opening brackets are too deep for a reader that may follow fewer.
-/

namespace OfferRules.Json

/-! ### Rests -/

theorem length_skipGap_le (ps : List CodePoint) : (skipGap ps).length ≤ ps.length :=
  (List.dropWhile_sublist _).length_le

/-- What stands behind the first code point after a gap is shorter than the whole. -/
theorem length_lt_of_skipGap {ps rest : List CodePoint} {p : CodePoint}
    (h : skipGap ps = p :: rest) :
    rest.length < ps.length := by
  have hlen := length_skipGap_le ps
  rw [h, List.length_cons] at hlen
  exact hlen

theorem length_readPieces_le {found pieces : List Piece} {ps rest : List CodePoint}
    (h : readPieces found ps = some (pieces, rest)) : rest.length ≤ ps.length := by
  fun_induction readPieces found ps with
  | case1 => exact nomatch h
  | case2 found a b c d rest' n hn ih =>
    have := ih h
    simp only [List.length_cons]
    omega
  | case3 => exact nomatch h
  | case4 found c rest' hu n hn ih =>
    have := ih h
    simp only [List.length_cons]
    omega
  | case5 => exact nomatch h
  | case6 found rest' =>
    obtain ⟨-, rfl⟩ := Prod.mk.inj (Option.some.inj h)
    exact Nat.le_succ _
  | case7 => exact nomatch h
  | case8 found c rest' hu hs hq hc ih =>
    have := ih h
    simp only [List.length_cons]
    omega
  | case9 found s rest' ih =>
    have := ih h
    simp only [List.length_cons]
    omega

theorem length_readText?_le {ps rest : List CodePoint} {t : Text}
    (h : readText? ps = some (t, rest)) : rest.length ≤ ps.length := by
  obtain ⟨⟨pieces, rest'⟩, hpieces, heq⟩ := Option.map_eq_some_iff.mp h
  obtain ⟨-, rfl⟩ := Prod.mk.inj heq
  exact length_readPieces_le hpieces

theorem length_readPlain?_le {ps rest : List CodePoint} {v : Value}
    (h : readPlain? ps = some (v, rest)) : rest.length ≤ ps.length :=
  (readPlain?_cases h).1.length_le

/-! ### A depth that suffices -/

/-- What is read leaves no more than some number of code points; if nothing is read, it is not for
want of depth. -/
def Leaves {α : Type} (n : Nat) : Except Problem (α × List CodePoint) → Prop
  | .ok (_, rest) => rest.length ≤ n
  | .error p => p = .malformed

namespace Leaves

variable {α β : Type} {m n : Nat}

theorem mono {x : Except Problem (α × List CodePoint)} (h : Leaves m x) (hle : m ≤ n) :
    Leaves n x := by
  cases x with
  | error p => exact h
  | ok p => exact Nat.le_trans h hle

theorem map {x : Except Problem (α × List CodePoint)} (h : Leaves n x)
    {f : α × List CodePoint → β × List CodePoint} (hf : ∀ p, (f p).2 = p.2) :
    Leaves n (x.map f) := by
  cases x with
  | error p => exact h
  | ok p =>
    show (f p).2.length ≤ n
    rw [hf]
    exact h

theorem ofOption {x : Option (α × List CodePoint)}
    (h : ∀ a rest, x = some (a, rest) → rest.length ≤ n) :
    Leaves n (Problem.ofOption x) := by
  cases x with
  | none => rfl
  | some p => exact h p.1 p.2 rfl

end Leaves

/-- Whatever is read with some fuel, a depth greater than the length of the text suffices. -/
structure Suffices (fuel : Nat) : Prop where
  /-- For a value. -/
  value : ∀ {depth ps}, ps.length < depth → Leaves ps.length (readValue fuel depth ps)
  /-- For the items of a list. -/
  items : ∀ {depth found ps}, ps.length < depth → Leaves ps.length (readItems fuel depth found ps)
  /-- For the members of an object. -/
  members : ∀ {depth found ps}, ps.length < depth →
    Leaves ps.length (readMembers fuel depth found ps)

namespace Suffices

variable {fuel depth : Nat}

theorem value_succ (ih : Suffices fuel) {ps : List CodePoint} (h : ps.length < depth) :
    Leaves ps.length (readValue (fuel + 1) depth ps) := by
  unfold readValue
  split
  · next rest =>
    -- a list: what stands in it is shorter by its bracket, as the depth is by one
    have hgap := length_skipGap_le rest
    rw [List.length_cons] at h ⊢
    cases depth with
    | zero => omega
    | succ depth =>
      dsimp only
      split
      · next rest' hclose =>
        have hlt := length_lt_of_skipGap hclose
        show rest'.length ≤ rest.length + 1
        omega
      · exact ((ih.items (by omega)).mono (by omega)).map fun _ => rfl
  · next c rest _ =>
    rw [List.length_cons] at h ⊢
    split
    · refine Leaves.ofOption fun v rest' heq => ?_
      obtain ⟨⟨s, _⟩, hs, hpair⟩ := Option.map_eq_some_iff.mp heq
      obtain ⟨-, rfl⟩ := Prod.mk.inj hpair
      exact Nat.le_succ_of_le (length_readText?_le hs)
    · split
      · -- an object, as a list
        have hgap := length_skipGap_le rest
        cases depth with
        | zero => omega
        | succ depth =>
          dsimp only
          split
          · rfl
          · next d more hmore =>
            have hlt := length_lt_of_skipGap hmore
            split
            · show more.length ≤ rest.length + 1
              omega
            · rw [← hmore]
              exact ((ih.members (by omega)).mono (by omega)).map fun _ => rfl
      · refine Leaves.ofOption fun v rest' heq => ?_
        exact length_readPlain?_le heq
  · rfl

theorem items_succ (ih : Suffices fuel) {found : List Value} {ps : List CodePoint}
    (h : ps.length < depth) : Leaves ps.length (readItems (fuel + 1) depth found ps) := by
  have hvalue := ih.value h
  unfold readItems
  split
  · next heq =>
    rw [heq] at hvalue
    exact hvalue
  · next v rest heq =>
    rw [heq] at hvalue
    have hrest : rest.length ≤ ps.length := hvalue
    split
    · next rest' hcomma =>
      have hlt := length_lt_of_skipGap hcomma
      have hgap := length_skipGap_le rest'
      exact (ih.items (by omega)).mono (by omega)
    · next rest' hclose =>
      have hlt := length_lt_of_skipGap hclose
      show rest'.length ≤ ps.length
      omega
    · rfl

theorem members_succ (ih : Suffices fuel) {found : Entries} {ps : List CodePoint}
    (h : ps.length < depth) : Leaves ps.length (readMembers (fuel + 1) depth found ps) := by
  unfold readMembers
  split
  · rfl
  · next c rest =>
    rw [List.length_cons] at h ⊢
    split
    · rfl
    · split
      · rfl
      · next key rest₁ hkey =>
        have hlen := length_readText?_le hkey
        split
        · next rest₂ hcolon =>
          -- what stands behind the key and its colon is shorter
          have hlt := length_lt_of_skipGap hcolon
          have hgap₂ := length_skipGap_le rest₂
          have hvalue : Leaves (skipGap rest₂).length (readValue fuel depth (skipGap rest₂)) :=
            ih.value (by omega)
          split
          · next heq =>
            rw [heq] at hvalue
            exact hvalue
          · next v rest₃ heq =>
            rw [heq] at hvalue
            have hrest : rest₃.length ≤ (skipGap rest₂).length := hvalue
            dsimp only
            split
            · next rest₄ hcomma =>
              have hlt₃ := length_lt_of_skipGap hcomma
              have hgap₄ := length_skipGap_le rest₄
              exact (ih.members (by omega)).mono (by omega)
            · next d rest₄ _ hclose =>
              have hlt₃ := length_lt_of_skipGap hclose
              split
              · show rest₄.length ≤ rest.length + 1
                omega
              · rfl
            · rfl
        · rfl

end Suffices

theorem suffices_all (fuel : Nat) : Suffices fuel := by
  induction fuel with
  | zero =>
    constructor
    · intro depth ps _
      rw [readValue]
      rfl
    · intro depth found ps _
      rw [readItems]
      rfl
    · intro depth found ps _
      rw [readMembers]
      rfl
  | succ fuel ih => exact ⟨ih.value_succ, ih.items_succ, ih.members_succ⟩

/-! ### Greater depths -/

/-- A second reading is the same as a first, or the first ended for want of depth. -/
def Agrees {α : Type} (x x' : Except Problem α) : Prop :=
  x' = x ∨ ∃ object, x = .error (.nesting object)

theorem Agrees.refl {α : Type} (x : Except Problem α) : Agrees x x := Or.inl rfl

theorem Agrees.map {α β : Type} {x x' : Except Problem α} (h : Agrees x x') (f : α → β) :
    Agrees (x.map f) (x'.map f) := by
  rcases h with rfl | ⟨object, rfl⟩
  · exact .refl _
  · exact Or.inr ⟨object, rfl⟩

/-- With some fuel, a reader that may go deeper agrees. -/
structure Deepens (fuel : Nat) : Prop where
  /-- On a value. -/
  value : ∀ {d d'} ps, d ≤ d' → Agrees (readValue fuel d ps) (readValue fuel d' ps)
  /-- On the items of a list. -/
  items : ∀ {d d' found ps}, d ≤ d' →
    Agrees (readItems fuel d found ps) (readItems fuel d' found ps)
  /-- On the members of an object. -/
  members : ∀ {d d' found ps}, d ≤ d' →
    Agrees (readMembers fuel d found ps) (readMembers fuel d' found ps)

namespace Deepens

variable {fuel d d' : Nat}

theorem value_succ (ih : Deepens fuel) (hle : d ≤ d') (ps : List CodePoint) :
    Agrees (readValue (fuel + 1) d ps) (readValue (fuel + 1) d' ps) := by
  unfold readValue
  split
  · -- a list: where the first reader may enter it, the second may too
    cases d with
    | zero => exact Or.inr ⟨false, rfl⟩
    | succ d =>
      cases d' with
      | zero => omega
      | succ d' =>
        dsimp only
        split
        · exact .refl _
        · exact (ih.items (Nat.le_of_succ_le_succ hle)).map _
  · split
    · exact .refl _
    · split
      · -- an object, as a list
        cases d with
        | zero => exact Or.inr ⟨true, rfl⟩
        | succ d =>
          cases d' with
          | zero => omega
          | succ d' =>
            dsimp only
            split
            · exact .refl _
            · split
              · exact .refl _
              · exact (ih.members (Nat.le_of_succ_le_succ hle)).map _
      · exact .refl _
  · exact .refl _

theorem items_succ (ih : Deepens fuel) (hle : d ≤ d') (found : List Value) (ps : List CodePoint) :
    Agrees (readItems (fuel + 1) d found ps) (readItems (fuel + 1) d' found ps) := by
  unfold readItems
  -- the items differ only if the value in front of them does
  rcases ih.value ps hle with heq | ⟨object, hnesting⟩
  · rw [heq]
    split
    · exact .refl _
    · split
      · exact ih.items hle
      · exact .refl _
      · exact .refl _
  · rw [hnesting]
    exact Or.inr ⟨object, rfl⟩

theorem members_succ (ih : Deepens fuel) (hle : d ≤ d') (found : Entries) (ps : List CodePoint) :
    Agrees (readMembers (fuel + 1) d found ps) (readMembers (fuel + 1) d' found ps) := by
  unfold readMembers
  split
  · exact .refl _
  · split
    · exact .refl _
    · split
      · exact .refl _
      · split
        · next rest _ =>
          rcases ih.value (skipGap rest) hle with heq | ⟨object, hnesting⟩
          · rw [heq]
            split
            · exact .refl _
            · dsimp only
              split
              · exact ih.members hle
              · exact .refl _
              · exact .refl _
          · rw [hnesting]
            exact Or.inr ⟨object, rfl⟩
        · exact .refl _

end Deepens

theorem deepens_all (fuel : Nat) : Deepens fuel := by
  induction fuel with
  | zero =>
    constructor
    · intro d d' ps _
      rw [readValue, readValue]
      exact .refl _
    · intro d d' found ps _
      rw [readItems, readItems]
      exact .refl _
    · intro d d' found ps _
      rw [readMembers, readMembers]
      exact .refl _
  | succ fuel ih =>
    exact ⟨fun ps h => ih.value_succ h ps, fun h => ih.items_succ h _ _,
      fun h => ih.members_succ h _ _⟩

/-! ### Documents -/

/-- A reader that may go deeper agrees. -/
theorem agrees_read {d d' : Nat} (hle : d ≤ d') (ps : List CodePoint) :
    Agrees (read d ps) (read d' ps) := by
  unfold read
  rcases (deepens_all (2 * ps.length + 2)).value (skipGap ps) hle with heq | ⟨object, hobject⟩
  · rw [heq]
    exact .refl _
  · rw [hobject]
    exact Or.inr ⟨object, rfl⟩

/-- A depth greater than the length of the text suffices. -/
theorem read_ne_nesting {d : Nat} {ps : List CodePoint} (h : ps.length < d) (object : Bool) :
    read d ps ≠ .error (.nesting object) := by
  have hvalue := (suffices_all (2 * ps.length + 2)).value
    (Nat.lt_of_le_of_lt (length_skipGap_le ps) h)
  unfold read
  split
  · split <;> exact nofun
  · next p heq =>
    rw [heq] at hvalue
    obtain rfl : p = .malformed := hvalue
    exact nofun

/-- A reader that finds its depth sufficient gets the value of the document, if there is one. -/
theorem toOption_read {d : Nat} {ps : List CodePoint}
    (h : ∀ object, read d ps ≠ .error (.nesting object)) : (read d ps).toOption = read? ps := by
  unfold read?
  -- the deeper of the two readers agrees with the other one
  rcases Nat.le_total d (ps.length + 1) with hle | hle
  · rcases agrees_read hle ps with heq | ⟨object, hobject⟩
    · rw [heq]
    · exact absurd hobject (h object)
  · rcases agrees_read hle ps with heq | ⟨object, hobject⟩
    · rw [heq]
    · exact absurd hobject (read_ne_nesting (Nat.lt_succ_self _) object)

/-- **The value of a document is what some reader gets.** -/
theorem read?_eq_some_iff {ps : List CodePoint} {v : Value} :
    read? ps = some v ↔ ∃ depth, read depth ps = .ok v := by
  constructor
  · exact fun h => ⟨ps.length + 1, read?_eq_some.mp h⟩
  · rintro ⟨depth, h⟩
    rw [← toOption_read (d := depth) (by rw [h]; exact nofun), h]
    rfl

/-- The value of a document in bytes, however deep it is. -/
def readBytes? (bytes : List UInt8) : Option Value := (pointsOf? bytes).bind read?

/-- Whether a document is too deep for a reader that may go to some depth. -/
def isTooDeep (depth : Nat) (bytes : List UInt8) : Bool :=
  match readBytes depth bytes with
  | .error (.nesting _) => true
  | _ => false

/-- **A reader gets the value of a document that is not too deep for it**, if there is one. -/
theorem toOption_readBytes {depth : Nat} {bytes : List UInt8}
    (h : isTooDeep depth bytes = false) : (readBytes depth bytes).toOption = readBytes? bytes := by
  unfold readBytes?
  unfold isTooDeep at h
  unfold readBytes at h ⊢
  cases hpoints : pointsOf? bytes with
  | none => rfl
  | some ps =>
    rw [hpoints] at h
    refine toOption_read fun object heq => ?_
    dsimp only at h
    rw [heq] at h
    exact nomatch h

/-! ### Opening brackets -/

theorem skipGap_brackets (n : Nat) :
    skipGap (List.replicate n (.char '[')) = List.replicate n (.char '[') := by
  cases n with
  | zero => rfl
  | succ n => rw [List.replicate_succ]; rfl

/-- Each of some opening brackets is a list within the list of the one before, so that more of them
than may be followed end the reading for want of depth. -/
theorem readValue_brackets {depth n fuel : Nat} (h : depth < n) (hfuel : 2 * depth < fuel) :
    readValue fuel depth (List.replicate n (.char '[')) = .error (.nesting false) := by
  induction depth generalizing n fuel with
  | zero =>
    obtain ⟨n, rfl⟩ : ∃ m, n = m + 1 := ⟨n - 1, by omega⟩
    obtain ⟨fuel, rfl⟩ : ∃ m, fuel = m + 1 := ⟨fuel - 1, by omega⟩
    rw [List.replicate_succ, readValue]
  | succ depth ih =>
    obtain ⟨n, rfl⟩ : ∃ m, n = m + 1 + 1 := ⟨n - 2, by omega⟩
    obtain ⟨fuel, rfl⟩ : ∃ m, fuel = m + 1 + 1 := ⟨fuel - 2, by omega⟩
    -- a list takes two steps, one for itself and one for its first item
    have hitems : readItems (fuel + 1) depth [] (List.replicate (n + 1) (.char '[')) =
        .error (.nesting false) := by
      rw [readItems, ih (by omega) (by omega)]
    have hgap := skipGap_brackets (n + 1)
    rw [List.replicate_succ] at hitems hgap
    rw [List.replicate_succ, List.replicate_succ, readValue, hgap]
    exact congrArg (Except.map _) hitems

theorem read_brackets {depth n : Nat} (h : depth < n) :
    read depth (List.replicate n (.char '[')) = .error (.nesting false) := by
  unfold read
  rw [skipGap_brackets, readValue_brackets h (by rw [List.length_replicate]; omega)]

/-- What starts with an opening bracket is no object. -/
theorem isMap_readValue_bracket {fuel depth : Nat} {ps rest : List CodePoint} {v : Value}
    (h : readValue fuel depth (.char '[' :: ps) = .ok (v, rest)) : v.isMap = false := by
  cases fuel with
  | zero => exact nomatch h
  | succ fuel =>
    cases depth with
    | zero => exact nomatch h
    | succ depth =>
      simp only [readValue] at h
      split at h
      · cases h
        rfl
      · obtain ⟨p, -, heq⟩ := map_eq_ok.mp h
        cases heq
        rfl

theorem isMap_read_bracket {d : Nat} {ps : List CodePoint} {v : Value}
    (h : read d (.char '[' :: ps) = .ok v) : v.isMap = false := by
  have hgap : skipGap (.char '[' :: ps) = .char '[' :: ps := rfl
  rw [read, hgap] at h
  split at h
  · next w rest hvalue =>
    split at h
    · obtain rfl := Except.ok.inj h
      exact isMap_readValue_bracket hvalue
    · exact nomatch h
  · exact nomatch h

/-! ### Bytes in ASCII -/

/-- Bytes in ASCII begin no surrogate. -/
theorem isCutSurrogate_ascii {a b : UInt8} (h : a.toNat < 0x80) :
    Utf8.isCutSurrogate [a, b] = false := by
  have hfirst : (a.toNat == 0xed) = false := beq_eq_false_iff_ne.mpr (by omega)
  rw [Utf8.isCutSurrogate, hfirst]
  rfl

theorem points8?_ascii {before bytes : List UInt8} (h : ∀ b ∈ bytes, b.toNat < 0x80) :
    Encoding.points8? before bytes = Encoding.chars? (before.reverse ++ bytes) := by
  fun_induction Encoding.points8? before bytes with
  | case1 before a b c rest hcut =>
    rw [isCutSurrogate_ascii (h a List.mem_cons_self)] at hcut
    exact nomatch hcut
  | case2 before a b c rest hcut =>
    rw [isCutSurrogate_ascii (h a List.mem_cons_self)] at hcut
    exact nomatch hcut
  | case3 before a b c rest hcut ih =>
    rw [ih (List.forall_mem_cons.mp h).2, List.reverse_cons, List.append_assoc,
      List.singleton_append]
  | case4 => rfl

/-- No mark starts with a byte of a character in ASCII that is not zero. -/
theorem take_ne_mark {a : UInt8} (h : 0 < a.toNat ∧ a.toNat < 0x80) (rest : List UInt8)
    {mark : List UInt8 × Encoding} (hmark : mark ∈ Encoding.marks) :
    (a :: rest).take mark.1.length ≠ mark.1 := by
  -- all of them start with zero or beyond ASCII
  have hfirst : ∀ m ∈ Encoding.marks,
      ∃ b tail, m.1 = b :: tail ∧ (b.toNat = 0 ∨ 0x80 ≤ b.toNat) := by
    simp [Encoding.marks]
  obtain ⟨b, tail, heq, hb⟩ := hfirst mark hmark
  rw [heq, List.length_cons, List.take_succ_cons]
  intro hcons
  obtain rfl := (List.cons.inj hcons).1
  omega

/-- Bytes in ASCII without zeros are taken for UTF-8. -/
theorem detect_ascii {bytes : List UInt8} (h : ∀ b ∈ bytes, 0 < b.toNat ∧ b.toNat < 0x80) :
    Encoding.detect bytes = (.utf8, bytes) := by
  rcases bytes with _ | ⟨a, rest⟩
  · rfl
  have hnone : Encoding.marks.find? (fun m => (a :: rest).take m.1.length == m.1) = none :=
    List.find?_eq_none.mpr fun m hm => by
      rw [beq_iff_eq]
      exact take_ne_mark (h a List.mem_cons_self) rest hm
  have hne : ∀ b ∈ a :: rest, b ≠ 0 := fun b hb hzero => by
    have := (h b hb).1
    simp [hzero] at this
  rw [Encoding.detect, hnone]
  dsimp only
  have hunmarked : Encoding.unmarked (a :: rest) = .utf8 := by
    rcases rest with _ | ⟨b, _ | ⟨c, _ | ⟨d, rest⟩⟩⟩ <;> simp [Encoding.unmarked, hne]
  rw [hunmarked]

/-- Bytes in ASCII without zeros are a document of the characters of their codes. -/
theorem pointsOf?_ascii {bytes : List UInt8} (h : ∀ b ∈ bytes, 0 < b.toNat ∧ b.toNat < 0x80) :
    pointsOf? bytes = some (bytes.map fun b => .char (Char.ofNat b.toNat)) := by
  have hascii : ∀ b ∈ bytes, b.toNat < 0x80 := fun b hb => (h b hb).2
  rw [pointsOf?, detect_ascii h]
  dsimp only [Encoding.decode?]
  rw [points8?_ascii hascii, List.reverse_nil, List.nil_append, Encoding.chars?,
    Utf8.decode_ascii hascii]
  simp [Except.toOption]

theorem pointsOf?_brackets (n : Nat) :
    pointsOf? (List.replicate n 0x5b) = some (List.replicate n (.char '[')) := by
  have hascii : ∀ b ∈ List.replicate n (0x5b : UInt8), 0 < b.toNat ∧ b.toNat < 0x80 := by
    intro b hb
    rw [List.eq_of_mem_replicate hb]
    decide
  rw [pointsOf?_ascii hascii, List.map_replicate]
  rfl

/-- Opening brackets are too deep for a reader that may follow fewer lists. -/
theorem isTooDeep_brackets {depth n : Nat} (h : depth < n) :
    isTooDeep depth (List.replicate n 0x5b) = true := by
  have hread : readBytes depth (List.replicate n 0x5b) = .error (.nesting false) := by
    rw [readBytes, pointsOf?_brackets]
    exact read_brackets h
  rw [isTooDeep, hread]

/-- Opening brackets are no object, however deep they are. -/
theorem any_isMap_brackets (n : Nat) :
    (readBytes? (List.replicate n 0x5b)).any Value.isMap = false := by
  rw [readBytes?, pointsOf?_brackets, Option.bind_some]
  cases hread : read? (List.replicate n (.char '[')) with
  | none => rfl
  | some v =>
    cases n with
    | zero => exact nomatch hread
    | succ n =>
      rw [List.replicate_succ] at hread
      exact isMap_read_bracket (read?_eq_some.mp hread)

end OfferRules.Json

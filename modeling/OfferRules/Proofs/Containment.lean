import OfferRules.Proofs.JsonReading
import OfferRules.Proofs.LowerContext
import OfferRules.Rule.Operator

/-!
# Containment

One value contains another when the lower-case form of its text holds that of the other's.  A text
that stands within another as it is need not be contained in it: a capital sigma at its end may not
be at the end of a word in the longer text.  The texts that are contained wherever they stand are
those whose sigmas are settled within them.

The text of a list joins those of its items by commas.  A comma has no case and is not skipped by
case rules, so beside it sigmas have the form that they have at an end of a text, and a list
contains whatever one of its items contains.

## Main results

* `Operator.compare_contains_eq_true` — when one value contains another.
* `infix_lowerFrom_join` — joined by commas, a text stands in the lower-case form that it has by
  itself.
* `Operator.compare_contains_iff_settled` — **the texts contained wherever they stand.**
* `Operator.compare_contains_list` — **a list contains what its items contain.**
-/

namespace OfferRules

/-! ### When one value contains another -/

theorem Value.contains_eq_true {whole part : Value} :
    whole.contains part = .ok true ↔ ∃ w p, whole.toText = .ok w ∧ part.toText = .ok p ∧
      lowerFrom [] p.points <:+: lowerFrom [] w.points := by
  unfold Value.contains
  cases part.toText with
  | error e => simp
  | ok p =>
    cases whole.toText with
    | error e => simp
    | ok w => simp [holds_iff, Text.lower]

namespace Operator

theorem compare_contains_eq_true {whole part : Value} :
    contains.compare whole part = .ok true ↔ ∃ w p, whole.toText = .ok w ∧
      part.toText = .ok p ∧ lowerFrom [] p.points <:+: lowerFrom [] w.points := by
  rw [← Value.contains_eq_true, compare]
  cases whole.contains part with
  | ok answer =>
    constructor
    · intro h
      exact congrArg _ (Except.ok.inj h)
    · intro h
      exact congrArg _ (Except.ok.inj h)
  | error f =>
    constructor
    · intro h
      cases h
    · intro h
      cases h

/-! ### Texts -/

theorem compare_contains_text {s t : Text} :
    contains.compare (.text t) (.text s) = .ok true ↔
      lowerFrom [] s.points <:+: lowerFrom [] t.points := by
  have htext : ∀ u : Text, (Value.text u).toText = .ok u := fun _ => rfl
  rw [compare_contains_eq_true]
  simp [htext]

/-- **The texts contained wherever they stand.**  A text is contained in every text that it stands
in as it is, if and only if the form of each of its capital sigmas is settled within it; and in any
case it is contained where its sigmas have the form that they have in the text by itself. -/
theorem compare_contains_iff_settled (s : Text) :
    ((∀ t : Text, s.points <:+: t.points →
        contains.compare (.text t) (.text s) = .ok true) ↔ IsSettled s.points) ∧
      ∀ before after : Text,
        (∀ p q, s.points = p ++ .char 'Σ' :: q →
          isFinalSigma (p.reverse ++ before.points.reverse) (q ++ after.points)
            = isFinalSigma p.reverse q) →
        contains.compare (.text (before ++ s ++ after)) (.text s) = .ok true := by
  constructor
  · rw [isSettled_iff]
    constructor
    · intro h t hst
      have hcontains := h (.ofPoints t) (by rwa [Text.points_ofPoints])
      rwa [compare_contains_text, Text.points_ofPoints] at hcontains
    · intro h t hst
      exact compare_contains_text.mpr (h t.points hst)
  · intro before after h
    rw [compare_contains_text, Text.points_append, Text.points_append]
    exact infix_lowerFrom h

/-- A word stands within a longer one as it is, and is not contained in it: its last sigma is in the
middle of the longer word. -/
theorem compare_contains_sigma :
    Text.points "ΑΣ" <:+: Text.points "ΑΣΑ" ∧
      contains.compare (.text "ΑΣΑ") (.text "ΑΣ") = .ok false := by
  have hanswer : (contains.compare (.text "ΑΣΑ") (.text "ΑΣ")).toOption = some false := by
    decide +kernel
  refine ⟨⟨[], [.char 'Α'], rfl⟩, ?_⟩
  cases hresult : contains.compare (.text "ΑΣΑ") (.text "ΑΣ") with
  | error f =>
    rw [hresult] at hanswer
    exact nomatch hanswer
  | ok answer =>
    rw [hresult] at hanswer
    exact congrArg Except.ok (Option.some.inj hanswer)

end Operator

/-! ### Lists -/

theorem nearestCase?_comma (ps : List CodePoint) :
    nearestCase? (.char ',' :: ps) = some false := by
  have hskip : CodePoint.isChar isCaseIgnorable (.char ',') = false := by decide +kernel
  have hcase : CodePoint.isChar isCased (.char ',') = false := by decide +kernel
  rw [nearestCase?_cons, hskip, hcase]
  rfl

/-- A text joined with others by commas stands between ends of the whole, or commas. -/
theorem exists_join_eq {t : Text} {ts : List Text} (h : t ∈ ts) :
    ∃ before after : List CodePoint,
      (Text.joined "," ts).points = before ++ t.points ++ after ∧
      nearestCase? before.reverse ≠ some true ∧ nearestCase? after ≠ some true := by
  induction ts with
  | nil => exact nomatch h
  | cons first rest ih =>
    by_cases hrest : rest = []
    · obtain rfl := List.mem_singleton.mp (hrest ▸ h)
      exact ⟨[], [], by simp [hrest, Text.joined], by decide, by decide⟩
    · rw [Text.points_joined_cons hrest]
      rcases List.mem_cons.mp h with rfl | hmem
      · refine ⟨[], .char ',' :: (Text.joined "," rest).points, by simp, by decide, ?_⟩
        rw [nearestCase?_comma]
        decide
      · obtain ⟨before, after, heq, hbefore, hafter⟩ := ih hmem
        refine ⟨first.points ++ .char ',' :: before, after, by simp [heq], ?_, hafter⟩
        -- what is before the text within the rest decides, and behind it there is a comma
        rw [List.reverse_append, List.reverse_cons, List.append_assoc, nearestCase?_append,
          List.singleton_append, nearestCase?_comma]
        cases hcase : nearestCase? before.reverse with
        | none => decide
        | some b => rwa [← hcase, Option.or_of_isSome (by rw [hcase]; rfl)]

/-- Joined with others by commas, a text stands in the lower-case form that it has by itself. -/
theorem infix_lowerFrom_join {t : Text} {ts : List Text} (h : t ∈ ts) :
    lowerFrom [] t.points <:+: lowerFrom [] (Text.joined "," ts).points := by
  obtain ⟨before, after, heq, hbefore, hafter⟩ := exists_join_eq h
  rw [heq]
  apply infix_lowerFrom
  intro p q _
  exact isFinalSigma_append_of_ne hbefore hafter

namespace Value

/-- The text of an item that is not none is one of the texts that are joined. -/
theorem mem_itemTexts {items : List Value} {ts : List Text} {e : Value} {t : Text}
    (h : itemTexts items = .ok ts) (hmem : e ∈ items) (hnull : e.isNull = false)
    (ht : e.toText = .ok t) : t ∈ ts := by
  induction items generalizing ts with
  | nil => exact nomatch hmem
  | cons v rest ih =>
    rw [itemTexts] at h
    split at h
    · next t' ts' hv hrest =>
      obtain rfl := Except.ok.inj h
      rcases List.mem_cons.mp hmem with rfl | hmem
      · rw [hnull, if_neg Bool.false_ne_true, ht] at hv
        obtain rfl := Except.ok.inj hv
        exact List.mem_cons_self
      · exact List.mem_cons_of_mem _ (ih hrest hmem)
    · cases h
    · cases h

end Value

namespace Operator

/-- **A list contains what its items contain**, exactly when it has a text, that is, unless a whole
number in it has too many digits to be written; and whatever is found in a JSON document has one. -/
theorem compare_contains_list {items : List Value} {e v : Value}
    (hitems : (Value.list items).isJson = true) (hmem : e ∈ items) (hnull : e.isNull = false)
    (h : contains.compare e v = .ok true) :
    (contains.compare (.list items) v = .ok true ↔ (Value.list items).isWritable = true) ∧
      ∀ document player path, Json.read? document = some player →
        player.resolve path = .ok (some (.list items)) →
        contains.compare (.list items) v = .ok true := by
  have htext := Value.toText_isOk _ hitems
  have hiff : contains.compare (.list items) v = .ok true ↔
      (Value.list items).isWritable = true := by
    rw [← htext, isOk_eq_true]
    constructor
    · intro hlist
      obtain ⟨w, _, hw, -⟩ := compare_contains_eq_true.mp hlist
      exact ⟨w, hw⟩
    · rintro ⟨w, hw⟩
      obtain ⟨t, p, ht, hp, hinfix⟩ := compare_contains_eq_true.mp h
      refine compare_contains_eq_true.mpr ⟨w, p, hw, hp, hinfix.trans ?_⟩
      rw [Value.toText] at hw
      cases hts : Value.itemTexts items with
      | error f =>
        rw [hts] at hw
        exact nomatch hw
      | ok ts =>
        rw [hts] at hw
        obtain rfl := Except.ok.inj hw
        exact infix_lowerFrom_join (Value.mem_itemTexts hts hmem hnull ht)
  refine ⟨hiff, ?_⟩
  intro document player path hread hresolve
  exact hiff.mpr (Json.hereditary_written.follow (Json.written_read? hread) hresolve).2

/-- A list of a text, of none and of a word with a capital sigma, of which the word matters. -/
theorem compare_contains_list_word :
    (Value.list [.text "new", .null, .text "ΑΣ"]).isJson = true ∧
      .text "ΑΣ" ∈ [Value.text "new", .null, .text "ΑΣ"] ∧
      (Value.text "ΑΣ").isNull = false ∧
      contains.compare (.text "ΑΣ") (.text "ΑΣ") = .ok true ∧
      contains.compare (.list [.text "new", .null, .text "ΑΣ"]) (.text "ΑΣ") = .ok true := by
  have hword : contains.compare (.text "ΑΣ") (.text "ΑΣ") = .ok true :=
    compare_contains_text.mpr (List.infix_refl _)
  have hmem : .text "ΑΣ" ∈ [Value.text "new", .null, .text "ΑΣ"] := by simp
  obtain ⟨hlist, -⟩ := compare_contains_list rfl hmem rfl hword
  exact ⟨rfl, hmem, rfl, hword, hlist.mpr rfl⟩

end Operator
end OfferRules

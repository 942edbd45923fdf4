import OfferRules.Proofs.ConditionAnswers

/-!
# Membership as equalities

Being an item of a list is being equal to one of its items, and being none of them is being equal to
no one.  A rule may say the one in a single condition and the other in a condition for each item,
and it makes no difference, also where the attribute is missing or null: there a condition does not
hold, and neither does its contrary.

## Main definitions

* `Rule.requiring` — a rule with other conditions and another way to combine them.

## Main results

* `Condition.evaluate_member`, `Condition.evaluate_nonmember` — membership as equalities.
* `Rule.matchesPlayer_member` — **a list and the conditions on its items say the same.**
-/

namespace OfferRules

open Traced

namespace Condition

variable {player : Value} {field : Text} {items : List Value}

/-- An attribute is an item of a list where it is equal to one. -/
theorem evaluate_member (player : Value) (field : Text) (hne : items ≠ []) :
    evaluate ⟨field, "in", .list items⟩ player
      = anyHolds (fun v => evaluate ⟨field, "eq", v⟩ player) items := by
  obtain ⟨f, hf⟩ | habsent | ⟨a, ha⟩ := cases_of_resolve ⟨field, "in", .list items⟩ player
  · -- the first item meets the same fault
    obtain ⟨v, rest, rfl⟩ := List.exists_cons_of_ne_nil hne
    have hv : evaluate ⟨field, "eq", v⟩ player = ofExcept (.error f) := evaluate_of_error hf
    rw [evaluate_of_error hf, anyHolds_cons, hv, ofExcept_error_bind]
  · have hitems : ∀ v ∈ items, evaluate ⟨field, "eq", v⟩ player = Pure.pure false :=
      fun v _ => evaluate_of_absent habsent
    have hnone : (items.any fun _ => false) = false := List.any_eq_false.mpr (by simp)
    rw [evaluate_of_absent habsent, anyHolds_pure hitems, hnone]
  · have hitems : ∀ v ∈ items, evaluate ⟨field, "eq", v⟩ player = Pure.pure (a.strictEq v) :=
      fun v _ => @evaluate_of_compare player a .eq field v _ ha.1 ha.2 rfl
    rw [anyHolds_pure hitems]
    exact @evaluate_of_compare player a .member field _ _ ha.1 ha.2 rfl

/-- An attribute is none of the items of a list where it is equal to none. -/
theorem evaluate_nonmember (player : Value) (field : Text) (hne : items ≠ []) :
    evaluate ⟨field, "nin", .list items⟩ player
      = allHold (fun v => evaluate ⟨field, "neq", v⟩ player) items := by
  obtain ⟨f, hf⟩ | habsent | ⟨a, ha⟩ := cases_of_resolve ⟨field, "nin", .list items⟩ player
  · obtain ⟨v, rest, rfl⟩ := List.exists_cons_of_ne_nil hne
    have hv : evaluate ⟨field, "neq", v⟩ player = ofExcept (.error f) := evaluate_of_error hf
    rw [evaluate_of_error hf, allHold_cons, hv, ofExcept_error_bind]
  · -- being different does not hold either of what is not there
    have hitems : ∀ v ∈ items, evaluate ⟨field, "neq", v⟩ player = Pure.pure false :=
      fun v _ => evaluate_of_absent habsent
    obtain ⟨v, rest, rfl⟩ := List.exists_cons_of_ne_nil hne
    rw [evaluate_of_absent habsent, allHold_pure hitems]
    simp
  · have hitems : ∀ v ∈ items, evaluate ⟨field, "neq", v⟩ player = Pure.pure (!a.strictEq v) :=
      fun v _ => @evaluate_of_compare player a .neq field v _ ha.1 ha.2 rfl
    rw [allHold_pure hitems, ← List.not_any_eq_all_not]
    exact @evaluate_of_compare player a .nonmember field _ _ ha.1 ha.2 rfl

end Condition

namespace Rule

variable {r : Rule} {player : Value}

/-- A rule with other conditions and another way to combine them. -/
def requiring (r : Rule) (logic : Text) (conditions : List Condition) : Rule :=
  { r with logic, conditions }

/-- A single condition decides, however it is combined. -/
theorem matchesPlayer_requiring_single {logic : Text} (h : logic = "AND" ∨ logic = "OR")
    (c : Condition) : (r.requiring logic [c]).matchesPlayer player = c.evaluate player := by
  have hone : ∀ b : Bool, (if b then Pure.pure true else Pure.pure false : Traced Bool)
      = Pure.pure b := by
    intro b
    cases b <;> rfl
  rcases h with rfl | rfl
  · exact (congrArg (c.evaluate player >>= ·) (funext hone)).trans (bind_pure_eq _)
  · exact (congrArg (c.evaluate player >>= ·) (funext hone)).trans (bind_pure_eq _)

/-- Of the conditions of a rule, one must hold. -/
theorem matchesPlayer_requiring_or {cs : List Condition} (hne : cs ≠ []) :
    (r.requiring "OR" cs).matchesPlayer player = anyHolds (·.evaluate player) cs := by
  obtain ⟨c, rest, rfl⟩ := List.exists_cons_of_ne_nil hne
  rfl

/-- Of the conditions of a rule, all must hold. -/
theorem matchesPlayer_requiring_and {cs : List Condition} (hne : cs ≠ []) :
    (r.requiring "AND" cs).matchesPlayer player = allHold (·.evaluate player) cs := by
  obtain ⟨c, rest, rfl⟩ := List.exists_cons_of_ne_nil hne
  rfl

/-- **A list and the conditions on its items say the same.**  A rule that requires an attribute to
be an item of a list that is not empty has the outcome of the rule that requires one of the
equalities with its items, and a rule that requires it to be no item has that of the rule that
requires all of the inequalities: for every player, also one without the attribute.  Where the
attribute is there and not null, exactly one holds of being an item and being none, and of being
equal to an item and being different from it. -/
theorem matchesPlayer_member (r : Rule) {items : List Value} (hne : items ≠ []) {logic : Text}
    (hlogic : logic = "AND" ∨ logic = "OR") (field : Text) (player : Value) :
    (r.requiring logic [⟨field, "in", .list items⟩]).matchesPlayer player
        = (r.requiring "OR" (items.map fun v => ⟨field, "eq", v⟩)).matchesPlayer player ∧
      (r.requiring logic [⟨field, "nin", .list items⟩]).matchesPlayer player
        = (r.requiring "AND" (items.map fun v => ⟨field, "neq", v⟩)).matchesPlayer player ∧
      ∀ a, player.resolve field = .ok (some a) → a.isNull = false →
        (∃ b, Condition.evaluate ⟨field, "in", .list items⟩ player = Pure.pure b ∧
          Condition.evaluate ⟨field, "nin", .list items⟩ player = Pure.pure !b) ∧
        ∀ v ∈ items, ∃ b, Condition.evaluate ⟨field, "eq", v⟩ player = Pure.pure b ∧
          Condition.evaluate ⟨field, "neq", v⟩ player = Pure.pure !b := by
  have hmap : ∀ f : Value → Condition, items.map f ≠ [] :=
    fun f hnil => hne (List.map_eq_nil_iff.mp hnil)
  refine ⟨?_, ?_, fun a hfield ha => ⟨⟨items.any fun v => a.strictEq v, ?_, ?_⟩, fun v _ => ?_⟩⟩
  · rw [matchesPlayer_requiring_single hlogic, matchesPlayer_requiring_or (hmap _), anyHolds_map]
    exact Condition.evaluate_member player field hne
  · rw [matchesPlayer_requiring_single hlogic, matchesPlayer_requiring_and (hmap _), allHold_map]
    exact Condition.evaluate_nonmember player field hne
  · exact @Condition.evaluate_of_compare player a .member field _ _ hfield ha rfl
  · exact @Condition.evaluate_of_compare player a .nonmember field _ _ hfield ha rfl
  · exact ⟨a.strictEq v, @Condition.evaluate_of_compare player a .eq field v _ hfield ha rfl,
      @Condition.evaluate_of_compare player a .neq field v _ hfield ha rfl⟩

/-- A list with not-a-number, which is equal to nothing, and a player whose level is that. -/
theorem matchesPlayer_member_nan :
    [Value.double .nan, .int 5] ≠ [] ∧ ("AND" = "AND" ∨ "AND" = "OR") ∧
      (requiring { id := "r" } "AND"
          [⟨"level", "in", .list [.double .nan, .int 5]⟩]).matchesPlayer
          (.record [("level", .double .nan)])
        = (requiring { id := "r" } "OR" [⟨"level", "eq", .double .nan⟩,
            ⟨"level", "eq", .int 5⟩]).matchesPlayer (.record [("level", .double .nan)]) ∧
      ∃ b, Condition.evaluate ⟨"level", "in", .list [.double .nan, .int 5]⟩
          (.record [("level", .double .nan)]) = Pure.pure b ∧
        Condition.evaluate ⟨"level", "nin", .list [.double .nan, .int 5]⟩
          (.record [("level", .double .nan)]) = Pure.pure !b := by
  have hne : [Value.double .nan, .int 5] ≠ [] := by simp
  have hfield : (Value.record [("level", .double .nan)]).resolve "level"
      = .ok (some (.double .nan)) := rfl
  obtain ⟨hsame, -, hthere⟩ := matchesPlayer_member { id := "r" } hne (Or.inl rfl) "level"
    (.record [("level", .double .nan)])
  exact ⟨hne, Or.inl rfl, hsame, (hthere _ hfield rfl).1⟩

end Rule
end OfferRules

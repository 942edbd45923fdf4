import OfferRules.Proofs.Addresses

/-!
# Joined paths

Two paths with a dot between them make a path whose segments are those of the first one and then
those of the second one, also where one of them is empty or has dots at its ends.  So the joined
path goes on along the second path from the part that the first one leads to.

A search has three outcomes: it finds a part, it finds none, or it ends in a fault.  Where the first
path finds none, the joined one finds none either, whatever segments stand behind, and a fault of
either path is the fault of the joined one.

## Main results

* `splitDots_append_dot` — a text is split at a dot into what its two sides are split into.
* `Value.follow_append` — following some segments and then others.
* `Value.resolve_join` — the outcome of a joined path from the outcomes of the two;
  `Value.resolve_join_of_none`, `Value.resolve_join_of_error` say where the search ends early.
* `Value.resolve_composes` — **paths compose**, with each of the three outcomes.
-/

namespace OfferRules

/-- A text is split at a dot into what its two sides are split into. -/
theorem splitDots_append_dot (before behind : List CodePoint) :
    splitDots (before ++ .char '.' :: behind) = splitDots before ++ splitDots behind := by
  simp only [splitDots_eq_splitOn]
  exact List.splitOn_append_cons_self before behind

theorem splitDots_join (p q : Text) :
    splitDots (p ++ "." ++ q).points = splitDots p.points ++ splitDots q.points := by
  rw [Text.points_append, Text.points_append, List.append_assoc]
  exact splitDots_append_dot _ _

namespace Value

/-- Segments are followed from the part that the segments in front of them lead to, if they lead to
one. -/
theorem follow_append (before behind : List (List CodePoint)) (v : Value) :
    v.follow (before ++ behind)
      = Option.elimM (v.follow before) (.ok none) (·.follow behind) := by
  induction before generalizing v with
  | nil => rfl
  | cons segment rest ih =>
    rw [List.cons_append, follow_cons, follow_cons]
    -- a step that finds nothing, or fails, ends both searches alike
    cases v.child segment with
    | error f => rfl
    | ok found =>
      cases found with
      | none => rfl
      | some part => exact ih part

/-- The second of two joined paths is followed from the part that the first one leads to, if it
leads to one. -/
theorem resolve_join (d : Value) (p q : Text) :
    d.resolve (p ++ "." ++ q) = Option.elimM (d.resolve p) (.ok none) (·.resolve q) := by
  rw [resolve, splitDots_join, follow_append]
  rfl

section Outcomes

variable {d : Value} {p : Text} (q : Text)

/-- A joined path goes on where the first of the two has found a part. -/
theorem resolve_join_of_some {part : Value} (h : d.resolve p = .ok (some part)) :
    d.resolve (p ++ "." ++ q) = part.resolve q := by
  rw [resolve_join, h]
  rfl

/-- Nothing is found behind a path that finds nothing, whatever the path behind it is like. -/
theorem resolve_join_of_none (h : d.resolve p = .ok none) :
    d.resolve (p ++ "." ++ q) = .ok none := by
  rw [resolve_join, h]
  rfl

/-- A fault of the first path is a fault of the joined one. -/
theorem resolve_join_of_error {f : Fault} (h : d.resolve p = .error f) :
    d.resolve (p ++ "." ++ q) = .error f := by
  rw [resolve_join, h]
  rfl

end Outcomes

/-- **Paths compose.**  The outcome of two paths joined by a dot is that of following the first one
and, from the part that it leads to, the second one.  So the joined path finds what the second one
finds there; it finds nothing if the first one does not, or the second one from there; and its
faults are those of the first one, and those of the second one from there. -/
theorem resolve_composes (d : Value) (p q : Text) :
    d.resolve (p ++ "." ++ q) = Option.elimM (d.resolve p) (.ok none) (·.resolve q) ∧
      (∀ node, d.resolve (p ++ "." ++ q) = .ok (some node) ↔
        ∃ part, d.resolve p = .ok (some part) ∧ part.resolve q = .ok (some node)) ∧
      (d.resolve (p ++ "." ++ q) = .ok none ↔ d.resolve p = .ok none ∨
        ∃ part, d.resolve p = .ok (some part) ∧ part.resolve q = .ok none) ∧
      (∀ f, d.resolve (p ++ "." ++ q) = .error f ↔ d.resolve p = .error f ∨
        ∃ part, d.resolve p = .ok (some part) ∧ part.resolve q = .error f) := by
  refine ⟨resolve_join d p q, ?_⟩
  cases hfirst : d.resolve p with
  | error e => simp [resolve_join_of_error q hfirst]
  | ok found =>
    cases found with
    | none => simp [resolve_join_of_none q hfirst]
    | some part => simp [resolve_join_of_some q hfirst]

/-- An empty segment names no item, and what stands behind it is not looked at, though it would be a
fault at the list. -/
example : Sample.nested.resolve "purchases..²" = .ok none := by cbv

end Value
end OfferRules

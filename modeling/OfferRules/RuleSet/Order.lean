import OfferRules.Rule.Basic

/-!
# The order of rules

The rules of a set stand by descending priority, and rules of equal priority in the order of
their document.  The order is made by insertion: a rule is put behind the rules of at least its
priority that were there before it, its place found by halving.  Priorities that compare with
nothing make the outcome depend on the places halving looks at, so these are fixed: the list is
taken from its end, its first ascending or strictly descending run is kept, and the others are
inserted one by one.

## Main definitions

* `insertionPoint` — the place of a new item among sorted ones, by halving.
* `sortedBy` — the ascending order of a list.
* `byPriority` — the order of rules.
-/

namespace OfferRules

variable {α : Type}

/-- The place between `lo` and `hi` where an item goes: the items before it are not greater. -/
def insertionPoint (less : α → α → Bool) (items : Array α) (a : α) (lo hi : Nat) : Nat :=
  if lo < hi then
    let mid := lo + (hi - lo) / 2
    if (items[mid]?).any (less a) then insertionPoint less items a lo mid
    else insertionPoint less items a (mid + 1) hi
  else lo
termination_by hi - lo
decreasing_by all_goals omega

/-- Puts an item among sorted ones. -/
def insertSorted (less : α → α → Bool) (items : List α) (a : α) : List α :=
  let i := insertionPoint less items.toArray a 0 items.length
  items.take i ++ a :: items.drop i

/-- The items after the first that go on as the run began, strictly descending or not, and
those after them. -/
def splitRun (less : α → α → Bool) (descending : Bool) (last : α) : List α → List α × List α
  | [] => ([], [])
  | a :: rest =>
    if less a last = descending then
      let (run, others) := splitRun less descending a rest
      (a :: run, others)
    else ([], a :: rest)

/-- The first run of a list in ascending order, and the items after it. -/
def firstRun (less : α → α → Bool) : List α → List α × List α
  | a :: b :: rest =>
    let descending := less b a
    let (run, others) := splitRun less descending b rest
    let whole := a :: b :: run
    (if descending then whole.reverse else whole, others)
  | short => (short, [])

/-- A list in ascending order; items of which none is less than the other keep their order. -/
def sortedBy (less : α → α → Bool) (items : List α) : List α :=
  let (run, others) := firstRun less items
  others.foldl (insertSorted less) run

/-- Rules by descending priority, those of equal priority in their order. -/
def byPriority (rules : List Rule) : List Rule :=
  (sortedBy (fun a b => a.priority.lt b.priority) rules.reverse).reverse

end OfferRules

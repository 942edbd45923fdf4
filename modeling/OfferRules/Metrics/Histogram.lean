import OfferRules.Number.Basic

/-!
# Histograms of durations

A histogram counts, for each of some ascending bounds, the observations that are not above it and
above the bounds before it, and sums up all observations.  The last bound is infinite.

## Main definitions

* `Histogram.bounds` — the bounds, in seconds.
* `Histogram`, `Histogram.observe`, `Histogram.count` — a histogram, an observation, their number.
* `Histogram.cumulative` — the observations up to each bound.
-/

namespace OfferRules

/-- The observations of a duration. -/
structure Histogram where
  /-- How many observations belong to each of the bounds. -/
  buckets : List Nat
  /-- The sum of the observations. -/
  sum : Double

namespace Histogram

/-- The finite bounds in thousandths. -/
def thousandths : List Nat :=
  [5, 10, 25, 50, 75, 100, 250, 500, 750, 1000, 2500, 5000, 7500, 10000]

/-- The bounds, in seconds. -/
def bounds : List Double :=
  thousandths.map (fun n => Decimal.toDouble false ⟨n, -3⟩) ++ [.infinite false]

/-- The histogram of no observations. -/
def empty : Histogram := { buckets := List.replicate (thousandths.length + 1) 0, sum := .zero }

instance : Inhabited Histogram := ⟨empty⟩

/-- Counts an observation at the first bound that it is not above. -/
def place (d : Double) : List Double → List Nat → List Nat
  | b :: bs, n :: ns => if d.le b then (n + 1) :: ns else n :: place d bs ns
  | _, ns => ns

/-- The histogram after an observation. -/
def observe (h : Histogram) (d : Double) : Histogram :=
  { buckets := place d bounds h.buckets, sum := h.sum + d }

/-- The number of observations. -/
def count (h : Histogram) : Nat := h.buckets.foldr (· + ·) 0

/-- The running sums of numbers after a sum. -/
def runningCounts (n : Nat) : List Nat → List Nat
  | [] => []
  | m :: rest => (n + m) :: runningCounts (n + m) rest

/-- How many observations are not above each bound. -/
def cumulative (h : Histogram) : List (Double × Nat) :=
  bounds.zip (runningCounts 0 h.buckets)

end Histogram
end OfferRules

import OfferRules.Fault
import OfferRules.Rule.Basic

/-!
# Selecting one of the eligible rules

The first strategy takes the first rule, which has the highest priority.  The other draws lots:
each rule owns a share of the line from zero to the sum of the weights, in order, and a draw
times the sum falls into one share.  Missing weights count as one and negative ones as zero; if
no weight is positive, the first rule is taken without a draw.  A strategy from outside is any
function of the eligible rules and the player.

## Main definitions

* `Draws` — a source of draws between zero and one.
* `Rule.share`, `runningSums`, `shareIndex` — the shares and the one that a number falls into.
* `Strategy.select` — the selected rule with the draws that are left.
-/

namespace OfferRules

/-! ### Draws -/

/-- A source of draws, each at least zero and below one. -/
structure Draws where
  /-- The draws in order. -/
  draw : Nat → Double
  /-- How many were taken. -/
  taken : Nat := 0

/-- The next draw. -/
def Draws.next (d : Draws) : Double := d.draw d.taken

/-- The draws after the next one. -/
def Draws.rest (d : Draws) : Draws := { d with taken := d.taken + 1 }

/-! ### Shares -/

/-- The share of a rule. -/
def Rule.share (r : Rule) : Number :=
  let weight := r.weight.getD (.double .one)
  if weight.lt (.double .zero) then .double .zero else weight

/-- The sum of two shares; one that is too large a whole number for a double has none with a
double. -/
def addShares (a b : Number) : Except Fault Number :=
  match a.add? b with
  | some c => .ok c
  | none => .error .overflow

/-- The running sums of shares after a sum. -/
def sumsFrom (sum : Number) : List Number → Except Fault (List Number)
  | [] => .ok [sum]
  | share :: rest => do
    let next ← addShares sum share
    return sum :: (← sumsFrom next rest)

/-- The running sums of shares. -/
def runningSums : List Number → Except Fault (List Number)
  | [] => .ok []
  | share :: rest => sumsFrom share rest

/-- The sum of shares. -/
def totalShare (shares : List Number) : Except Fault Number := shares.foldlM addShares 0

/-- Seeks among the places from `low` to below `high`, by halving them so many times at most: if the
middle is beyond what is sought, below it, and else above it. -/
def bisect (beyond : Nat → Bool) : Nat → Nat → Nat → Nat
  | 0, low, _ => low
  | steps + 1, low, high =>
    if low < high then
      let middle := (low + high) / 2
      if beyond middle then bisect beyond steps low middle
      else bisect beyond steps (middle + 1) high
    else low

/-- The place of the share that a number falls into, found by halving: of all sums but the last, the
number has reached the one before and not the one at the place. -/
def shareIndex (sums : List Number) (x : Double) : Nat :=
  let last := sums.length - 1
  bisect (fun i => sums[i]?.any fun c => (Number.double x).lt c) last 0 last

/-! ### Strategies -/

/-- A strategy of selection. -/
inductive Strategy where
  /-- Takes the first rule. -/
  | priority
  /-- Draws lots. -/
  | weighted
  /-- Chooses as a function from outside does, under some title. -/
  | outside (title : String) (choose : List Rule → Value → Except Fault (Option Rule))

namespace Strategy

/-- The name by which a strategy is configured. -/
def name : Strategy → String
  | priority => "priority"
  | weighted => "weighted"
  | outside title _ => title

/-- The strategy of a name. -/
def named? (s : String) : Except Fault Strategy :=
  if s = name priority then .ok priority
  else if s = name weighted then .ok weighted
  else .error (.unknownStrategy s)

/-- The title by which a strategy presents itself. -/
def title : Strategy → String
  | priority => "PriorityFirstSelection"
  | weighted => "WeightedRandomSelection"
  | outside title _ => title

/-- Draws lots among rules whose shares have a positive sum, or one that is no number. -/
def drawLots (eligible : List Rule) (draws : Draws) : Except Fault (Option Rule × Draws) := do
  let sums ← runningSums (eligible.map Rule.share)
  let total ← match sums.getLast? with
    | some last => addShares last (.double .zero)
    | none => pure 0
  match total with
  | .double d =>
    if d.isFinite then return (eligible[shareIndex sums (draws.next * d)]?, draws.rest)
    else throw .weightTotal
  | .int _ => return (none, draws)

/-- Selects one of the eligible rules for a player, if there are any; the draws that are left come
with it. -/
def select (eligible : List Rule) (draws : Draws) (s : Strategy) (player : Value := .null) :
    Except Fault (Option Rule × Draws) :=
  match s with
  | priority => .ok (eligible.head?, draws)
  | weighted =>
    match eligible with
    | [] => .ok (none, draws)
    | first :: _ => do
      let total ← totalShare (eligible.map Rule.share)
      if total.le 0 then return (some first, draws) else drawLots eligible draws
  | outside _ choose => (choose eligible player).map (·, draws)

end Strategy
end OfferRules

import OfferRules.Engine.Basic

/-!
# Runs of an engine

What is done with an engine, one action after another, and what it answers.  The source of its
rules may be replaced at any time, and so may its gates, its strategy and its draws, so nothing
is assumed of them beyond what a single selection sees.

## Main definitions

* `Engine.Action`, `Engine.Answer` — what is done with an engine, and what it answers.
* `Engine.act`, `Engine.run` — the engine after an action and after several, with the answers.
* `Engine.fresh` — a new engine of the service that selects promotions.

## Main results

* `Engine.run_induction` — what every action keeps is kept by a run.
* `Engine.run_append`, `Engine.getElem?_run` — one run after another, and the answers on the way.
-/

namespace OfferRules.Engine

/-- Something that is done with an engine. -/
inductive Action where
  /-- The source of the rules is replaced. -/
  | replace (source : RuleSource)
  /-- The gates, the strategy and the draws are replaced. -/
  | arrange (gates : List Gate) (strategy : Strategy) (draws : Draws)
  /-- The rules are loaded. -/
  | load (now : DateTime)
  /-- The rules are reloaded. -/
  | reload (now : DateTime)
  /-- A promotion is selected for a player, in some milliseconds. -/
  | select (now : DateTime) (elapsed : Magnitude) (player : Value)
  /-- The account is read. -/
  | read

/-- Whether an action is a selection. -/
def Action.isSelection : Action → Bool
  | select _ _ _ => true
  | _ => false

/-- What an engine answers to an action. -/
inductive Answer where
  /-- Nothing. -/
  | done
  /-- Whether a load succeeded. -/
  | loaded (success : Bool)
  /-- The report on a reload. -/
  | reloaded (report : ReloadReport)
  /-- The promotion selected, if there is one. -/
  | selected (promotion : Option Entries)
  /-- A summary of the account. -/
  | account (snapshot : Snapshot)

namespace Answer

/-- Whether an answer is one to a selection. -/
def isSelection : Answer → Bool
  | selected _ => true
  | _ => false

/-- Whether an answer is a promotion. -/
def isHit : Answer → Bool
  | selected (some _) => true
  | _ => false

/-- Whether an answer is that there is no promotion. -/
def isMiss : Answer → Bool
  | selected none => true
  | _ => false

end Answer

/-- The engine after an action, and what it answers. -/
def act (e : Engine) : Action → Engine × Answer
  | .replace source => (e.withSource source, .done)
  | .arrange gates strategy draws => ({ e with gates, strategy, draws }, .done)
  | .load now => ((e.load now).1, .loaded (e.load now).2.1)
  | .reload now => ((e.reload now).1, .reloaded (e.reload now).2.1)
  | .select now elapsed player =>
    ((e.select now elapsed player).engine, .selected (e.select now elapsed player).promotion)
  | .read => (e, .account e.snapshot)

/-- The engine after some actions, and what it answers to each. -/
def run (e : Engine) : List Action → Engine × List Answer
  | [] => (e, [])
  | a :: rest => (((e.act a).1.run rest).1, (e.act a).2 :: ((e.act a).1.run rest).2)

@[simp] theorem run_nil (e : Engine) : e.run [] = (e, []) := rfl

theorem run_cons (e : Engine) (a : Action) (rest : List Action) :
    e.run (a :: rest) = (((e.act a).1.run rest).1, (e.act a).2 :: ((e.act a).1.run rest).2) := rfl

/-- What every action keeps of an engine and the answers so far is kept by a run. -/
theorem run_induction (kept : Engine → List Answer → Prop)
    (hact : ∀ e answers, kept e answers → ∀ a, kept (e.act a).1 (answers ++ [(e.act a).2]))
    {e : Engine} {answers : List Answer} (h : kept e answers) (actions : List Action) :
    kept (e.run actions).1 (answers ++ (e.run actions).2) := by
  induction actions generalizing e answers with
  | nil => simpa using h
  | cons a rest ih =>
    rw [run_cons]
    have hrest := ih (hact e answers h a)
    rwa [List.append_assoc] at hrest

/-- One run after another. -/
theorem run_append (e : Engine) (first second : List Action) :
    e.run (first ++ second)
      = (((e.run first).1.run second).1, (e.run first).2 ++ ((e.run first).1.run second).2) := by
  induction first generalizing e with
  | nil => rfl
  | cons a rest ih => rw [List.cons_append, run_cons, run_cons, ih, List.cons_append]

theorem length_run (e : Engine) (actions : List Action) :
    (e.run actions).2.length = actions.length := by
  induction actions generalizing e with
  | nil => rfl
  | cons a rest ih => rw [run_cons, List.length_cons, List.length_cons, ih]

/-- The answer to an action of a run. -/
theorem getElem?_run (e : Engine) (pre : List Action) (a : Action) (post : List Action) :
    (e.run (pre ++ a :: post)).2[pre.length]? = some ((e.run pre).1.act a).2 := by
  rw [run_append, run_cons, ← length_run e pre]
  simp

/-- A new engine of the service that selects promotions. -/
def fresh (source : RuleSource) (gates : List Gate) (strategy : Strategy) (draws : Draws) :
    Engine :=
  { store := { source, activity := { collector := some (.ofService promotionsName) } }
    gates, strategy, draws }

end OfferRules.Engine

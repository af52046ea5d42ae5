import HookRelay.Proofs.Pass.Calls
import HookRelay.Proofs.World.Drift

/-!
# Passes, one after the other

What holds of a source in the long run is a statement about passes that follow one another, with
whatever may happen to the world in between. Which passes there can be, and what they begin with,
may depend on those before.

## Main definitions

* `Visit` : a pass, with the world that it begins in
* `Visits` : passes, one after the other

## Main statements

* `Visits.of_cons` : what comes before the latest pass
-/

namespace HookRelay.Pass

variable {W : Type}

/-- A pass (`Pass.converge`), with the world that it begins in. -/
structure Visit (W : Type) where
  pass : Pass W
  before : W

namespace Visit

variable (v : Visit W)

/-- What the pass arrives at. -/
def outcome : Outcome := (v.pass.converge v.before).1

/-- The world behind the pass. -/
def after : W := (v.pass.converge v.before).2

/-- What the pass asks of its collaborators, the latest first. -/
def calls : List Call := v.pass.calls v.before

end Visit

/-- **Passes, one after the other**, the latest first, and the world behind them. Before and after
every pass a drift may happen. -/
inductive Visits (d : Drift W) (admits : List (Visit W) → Pass W → Prop) (w₀ : W) :
    List (Visit W) → W → Prop where
  | start : Visits d admits w₀ [] w₀
  | pass {visits : List (Visit W)} {v : Visit W} (run : Visits d admits w₀ visits v.before)
      (admitted : admits visits v.pass) : Visits d admits w₀ (v :: visits) v.after
  | meanwhile {visits : List (Visit W)} {w w' : W} (run : Visits d admits w₀ visits w)
      (moved : d.rel w w') : Visits d admits w₀ visits w'

/-- What comes before the latest pass. -/
theorem Visits.of_cons {d : Drift W} {admits : List (Visit W) → Pass W → Prop} {w₀ w : W}
    {v : Visit W} {visits : List (Visit W)} (run : Visits d admits w₀ (v :: visits) w) :
    Visits d admits w₀ visits v.before ∧ admits visits v.pass := by
  generalize all : v :: visits = history at run
  induction run with
  | start => cases all
  | pass run admitted ih =>
    cases all
    exact ⟨run, admitted⟩
  | meanwhile run moved ih => exact ih all

end HookRelay.Pass

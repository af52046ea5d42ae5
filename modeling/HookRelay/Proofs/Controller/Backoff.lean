import HookRelay.Proofs.Controller.OneSource
import HookRelay.Proofs.Retry.Delays

/-!
# How long a source that failed has to wait

Failures of a source are counted under its name, and each is answered with a longer delay. Only a
pass that succeeds starts over: a source that is marked, taken down, or left alone keeps its
failures, and so does one that is created anew under the same name. So a failure is answered as the
first one exactly if none came since the last pass that succeeded.

## Main definitions

* `Undisturbed` : only the controller writes down failures
* `Ending`, `Ending.writes` : how a look at a source ended, and what it writes down
* `streak` : the failures since the last pass that succeeded
* `Looks` : the looks at the sources of one name

## Main statements

* `handle_registry`, `handle_delay` : what one look does to the failures that are written down,
  and how long it has to wait if it failed
* `Looks.counts` : what all looks have left
* `Looks.backoff` : how long a failure has to wait
-/

namespace HookRelay.Controller

open Cluster (Request)
open Retry (Registry sourceKey)

variable {W : Type}

/-- Only the controller writes down failures: what it asks of others leaves them alone. -/
structure Undisturbed (c : Controller W) : Prop where
  lawful : c.registry.Lawful
  team : c.team.Throughout (Drift.fixing c.registry.get)
  api : ∀ r : Request, (c.api.send r).Within (Drift.fixing c.registry.get)

/-- Whether a `reconcile` call makes a pass: the source carries the `mark` and is not being
deleted. -/
def getsPass (s : Source) : Bool := (markIndex? s).isSome && !s.metadata.deleting

/-- How a look at a source, a `reconcile` call, ended. -/
inductive Ending where
  /-- A pass succeeded. -/
  | settled
  /-- Something else succeeded: the source was marked or taken down, or there was nothing to do. -/
  | idle
  | failed
  deriving DecidableEq, Repr

/-- How a look at a source ended, by its answer. -/
def Ending.of (s : Source) (error : Option Error) : Ending :=
  match error with
  | some _ => .failed
  | none => if getsPass s then .settled else .idle

/-- What is written down under a name when a look has ended. -/
def Ending.writes (b : Retry.Bounds) (k : String) (ending : Ending) (g : Registry) : Registry :=
  match ending with
  | .settled => (Registry.reset k g).2
  | .idle => g
  | .failed => (Registry.fail b k g).2

variable {c : Controller W} (now : Time.Instant) (s : Source) (w : W)

/-! ## One look -/

section Look

variable (undisturbed : c.Undisturbed)
include undisturbed

/-- A success of a source starts its failures over. -/
theorem settle_registry (r : Requeue) : c.registry.get (c.settle s r w).2 =
    (Registry.reset (sourceKey s) (c.registry.get w)).2 := by
  have forgotten : c.registry.get (c.policy.reset (sourceKey s) w).2 =
      (Registry.reset (sourceKey s) (c.registry.get w)).2 := undisturbed.lawful _ _
  exact (undisturbed.team.others.counters _ _).trans forgotten

theorem apply_registry : c.registry.get (c.apply now s w).2 =
    match (c.apply now s w).1 with
    | .ok _ => (Registry.reset (sourceKey s) (c.registry.get w)).2
    | .error _ => c.registry.get w := by
  unfold apply
  rw [Act.bind_apply]
  rcases converged : (c.pass now s).converge w with ⟨outcome, w₁⟩
  have passed := (Pass.within_converge (p := c.pass now s) undisturbed.team).moved converged
  dsimp only
  rw [Act.bind_apply]
  rcases saved : c.saveStatus s outcome.status w₁ with ⟨answer, w₂⟩
  have kept := (within_saveStatus (fun r _ _ => undisturbed.api r) s _).moved saved
  have still : c.registry.get w₂ = c.registry.get w := Eq.trans kept passed
  cases answer with
  | error e => exact still
  | ok u =>
    dsimp only
    cases outcome.result with
    | error e => exact still
    | ok requeue =>
      rw [← still]
      exact settle_registry s w₂ undisturbed requeue

/-- Taking a source down and marking it leave the failures alone. -/
theorem within_release (index : Nat) :
    (c.release now s index).Within (Drift.fixing c.registry.get) := by
  unfold release
  cases s.metadata.name with
  | none => exact Act.within_pure _
  | some name =>
    have cleaned : (c.cleanup now s).Within (Drift.fixing c.registry.get) := by
      refine (Pass.within_finalize (p := c.pass now s) undisturbed.team).bind fun ended => ?_
      cases ended with
      | error e => exact Act.within_pure _
      | ok st =>
        exact (within_saveStatus (fun r _ _ => undisturbed.api r) s st).bind fun _ =>
          Act.within_pure _
    refine cleaned.bind fun answer => ?_
    cases answer with
    | error e => exact Act.within_pure _
    | ok delay =>
      refine (within_changeMarks (fun r _ => undisturbed.api r) s name).bind fun changed => ?_
      cases changed with
      | error e => exact Act.within_pure _
      | ok u => exact Act.within_pure _

/-- The failures behind a look, but for the one that the look itself may be. -/
theorem dispatch_registry : c.registry.get (c.dispatch now s w).2 =
    match getsPass s, (c.dispatch now s w).1 with
    | true, .ok _ => (Registry.reset (sourceKey s) (c.registry.get w)).2
    | _, _ => c.registry.get w := by
  unfold dispatch getsPass
  cases markIndex? s with
  | none =>
    cases s.metadata.deleting with
    | true => rfl
    | false => exact within_markSource (fun r _ => undisturbed.api r) w
  | some index =>
    cases s.metadata.deleting with
    | true => exact within_release now s undisturbed index w
    | false =>
      have applied := apply_registry now s w undisturbed
      dsimp only
      rw [Act.bind_apply]
      rcases run : c.apply now s w with ⟨answer, w₁⟩
      rw [run] at applied
      cases answer with
      | error e => exact applied
      | ok delay => exact applied

theorem reconcile_registry : c.registry.get (c.reconcile now s w).2 =
    match getsPass s, (c.reconcile now s w).1 with
    | true, .ok _ => (Registry.reset (sourceKey s) (c.registry.get w)).2
    | _, _ => c.registry.get w := by
  have counts (n : Counter) (v : W) : c.registry.get (c.team.count n v).2 = c.registry.get v :=
    undisturbed.team.others.counters n v
  have dispatched := dispatch_registry now s (c.team.count .reconciliation w).2 undisturbed
  rw [counts] at dispatched
  exact (counts _ _).trans dispatched

/-- A failure is written down, and answered with its delay. -/
theorem afterFailure_registry : c.registry.get (c.policy.afterFailure s w).2 =
      (Registry.fail c.settings.errorBackoff (sourceKey s) (c.registry.get w)).2 ∧
    (c.policy.afterFailure s w).1 =
      (Registry.fail c.settings.errorBackoff (sourceKey s) (c.registry.get w)).1.1 := by
  have counts (n : Counter) (v : W) : c.registry.get (c.team.count n v).2 = c.registry.get v :=
    undisturbed.team.others.counters n v
  have failed (v : W) : c.policy.fail (sourceKey s) v =
      ((Registry.fail c.settings.errorBackoff (sourceKey s) (c.registry.get v)).1,
        c.registry.set
          (Registry.fail c.settings.errorBackoff (sourceKey s) (c.registry.get v)).2 v) := rfl
  have before : c.registry.get (c.policy.count .reconciliationError w).2 = c.registry.get w :=
    counts _ w
  unfold Retry.Policy.afterFailure
  rw [Act.bind_apply, Act.bind_apply, failed, before]
  exact ⟨(counts _ _).trans (undisturbed.lawful _ _), rfl⟩

/-- A look that failed leaves the failures alone until its own is written down. -/
theorem reconcile_registry_failed {e : Error} (failed : (c.reconcile now s w).1 = .error e) :
    c.registry.get (c.reconcile now s w).2 = c.registry.get w := by
  have looked := reconcile_registry now s w undisturbed
  rw [failed] at looked
  cases pass : getsPass s <;> simpa [pass] using looked

/-- **What one look does to the failures that are written down**: a pass that succeeded starts them
over, a failure is written down, and anything else leaves them as they are. -/
theorem handle_registry : c.registry.get (c.handle now s w).2 =
    (Ending.of s (c.handle now s w).1.2).writes c.settings.errorBackoff (sourceKey s)
      (c.registry.get w) := by
  have looked := reconcile_registry now s w undisturbed
  have failing := @reconcile_registry_failed W c now s w undisturbed
  unfold handle
  rw [Act.bind_apply]
  rcases run : c.reconcile now s w with ⟨answer, w₁⟩
  rw [run] at looked failing
  cases answer with
  | ok delay =>
    cases pass : getsPass s with
    | true =>
      rw [pass] at looked
      simpa [Ending.of, Ending.writes, pass] using looked
    | false =>
      rw [pass] at looked
      simpa [Ending.of, Ending.writes, pass] using looked
  | error e =>
    have still : c.registry.get w₁ = c.registry.get w := failing rfl
    rw [← still]
    exact (afterFailure_registry s w₁ undisturbed).1

/-- A look that failed has to wait for the delay that is written down. -/
theorem handle_delay {e : Error} (failed : (c.handle now s w).1.2 = some e) :
    (c.handle now s w).1.1 =
      some (Registry.fail c.settings.errorBackoff (sourceKey s) (c.registry.get w)).1.1 := by
  have failing := @reconcile_registry_failed W c now s w undisturbed
  unfold handle at failed ⊢
  rw [Act.bind_apply] at failed ⊢
  rcases run : c.reconcile now s w with ⟨answer, w₁⟩
  rw [run] at failed failing
  cases answer with
  | ok delay => cases failed
  | error e =>
    have still : c.registry.get w₁ = c.registry.get w := failing rfl
    rw [← still]
    exact congrArg some (afterFailure_registry s w₁ undisturbed).2

end Look

/-! ## Looks, one after the other -/

/-- The failures since the last `apply` that succeeded, of endings with the latest first. -/
def streak (log : List Ending) : Nat :=
  (log.takeWhile fun e => e ≠ .settled).count .failed

@[simp] theorem streak_idle (log : List Ending) : streak (.idle :: log) = streak log := by
  simp [streak]

@[simp] theorem streak_failed (log : List Ending) : streak (.failed :: log) = streak log + 1 := by
  simp [streak]

/-- What is written down under the name of a source in the `Retry.Registry`. -/
def failures (c : Controller W) (k : String) (w : W) : Option Nat :=
  ((c.registry.get w).find? k).map Retry.Record.failures

/-- **The looks at the sources of one name**, the calls of `Controller.handle` for them, the latest
first. At first no failure is written down. In between anything may happen, such as looks at other
sources, a deletion, or a source that is created anew, as long as what is written down under the
name stays. -/
inductive Looks (c : Controller W) (k : String) : List Ending → W → Prop where
  | start {w : W} (unknown : (c.registry.get w).find? k = none) : Looks c k [] w
  | look {log : List Ending} {w w₁ : W} (before : Looks c k log w)
      (meanwhile : (c.registry.get w₁).find? k = (c.registry.get w).find? k) (now : Time.Instant)
      (s : Source) (named : sourceKey s = k) :
      Looks c k (.of s (c.handle now s w₁).1.2 :: log) (c.handle now s w₁).2

/-- One more ending, and one more failure if it is one. -/
theorem counts_writes {b : Retry.Bounds} {k : String} {log : List Ending} {g : Registry}
    (counts : g.Counts b k (streak log)) (ending : Ending) :
    (ending.writes b k g).Counts b k (streak (ending :: log)) := by
  cases ending with
  | settled => exact counts.reset
  | idle =>
    rw [streak_idle]
    exact counts
  | failed =>
    rw [streak_failed]
    exact counts.fail.2.1

variable {now s w} {k : String} {log : List Ending} {w₁ : W}

theorem Looks.look_of {ending : Ending} (before : Looks c k log w)
    (meanwhile : (c.registry.get w₁).find? k = (c.registry.get w).find? k)
    (named : sourceKey s = k) (ended : Ending.of s (c.handle now s w₁).1.2 = ending) :
    Looks c k (ending :: log) (c.handle now s w₁).2 :=
  ended ▸ before.look meanwhile now s named

/-- **What all looks have left**: the failures since the last pass that succeeded are counted. -/
theorem Looks.counts (undisturbed : c.Undisturbed) (looks : Looks c k log w) :
    (c.registry.get w).Counts c.settings.errorBackoff k (streak log) := by
  induction looks with
  | start unknown => exact Registry.counts_of_unknown unknown
  | @look log w w₁ before meanwhile now s named ih =>
    rw [handle_registry now s w₁ undisturbed, named]
    exact counts_writes (ih.congr meanwhile) _

/-- **How long a failure has to wait.** It is given the delay behind all failures since the last
pass that succeeded, and counted as one more. So it is given the first delay with a count of one
exactly if there were no failures since that pass; that a look succeeded in another way does not
make it so. -/
theorem Looks.backoff (undisturbed : c.Undisturbed) (looks : Looks c k log w)
    (meanwhile : (c.registry.get w₁).find? k = (c.registry.get w).find? k)
    (named : sourceKey s = k) {e : Error} (failed : (c.handle now s w₁).1.2 = some e) :
    (c.handle now s w₁).1.1 = some (c.settings.errorBackoff.delay (streak log)) ∧
    c.failures k (c.handle now s w₁).2 = some (streak log + 1) ∧
    ((c.handle now s w₁).1.1 = some (c.settings.errorBackoff.delay 0) ∧
      c.failures k (c.handle now s w₁).2 = some 1 ↔
        ∀ ending ∈ log.takeWhile fun e => e ≠ .settled, ending ≠ .failed) := by
  have counts := (looks.counts undisturbed).congr meanwhile
  obtain ⟨answer, -, counted⟩ := counts.fail
  have delay := handle_delay now s w₁ undisturbed failed
  rw [named, answer] at delay
  have written := handle_registry now s w₁ undisturbed
  rw [failed, named] at written
  have number : c.failures k (c.handle now s w₁).2 = some (streak log + 1) := by
    rw [failures, written]
    exact counted
  refine ⟨delay, number, ?_⟩
  have none_failed : streak log = 0 ↔
      ∀ ending ∈ log.takeWhile fun e => e ≠ .settled, ending ≠ .failed := by
    rw [streak, List.count_eq_zero]
    exact ⟨fun none e mem same => none (same ▸ mem), fun none mem => none _ mem rfl⟩
  rw [← none_failed, delay, number]
  constructor
  · rintro ⟨-, one⟩
    exact Nat.succ.inj (Option.some.inj one)
  · intro first
    rw [first]
    exact ⟨rfl, rfl⟩

end HookRelay.Controller

/-! ## A source that is marked at last -/

namespace HookRelay.OneSource

open Controller (Ending Looks)
open Retry (sourceKey)

/-- A cluster that marks the source as well, unless it refuses. -/
def markingApi : Cluster.Api OneSource where
  send r := fun w =>
    match r.content with
    | .operations _ =>
      if w.refusing then (⟨500, .text "no answer"⟩, w) else (⟨200, .json w.object⟩, w)
    | .read | .create _ | .merge _ => api.send r w

/-- The controller of such a cluster. -/
def marker : Controller OneSource := { controller with api := markingApi }

theorem undisturbed : marker.Undisturbed where
  lawful _ _ := rfl
  team := beside fun _ _ => rfl
  api r w := by
    obtain ⟨path, query, content⟩ := r
    cases content with
    | read | create _ => rfl
    | operations patch =>
      show registry (markingApi.send ⟨path, query, .operations patch⟩ w).2 = registry w
      dsimp only [markingApi]
      split <;> rfl
    | merge patch =>
      show registry (api.send ⟨path, query, .merge patch⟩ w).2 = registry w
      dsimp only [api]
      split <;> rfl

/-- The world behind the first look, at which the source could not be marked. -/
def unmarked : OneSource := (marker.handle ⟨0⟩ InMemory.source before).2

/-- The world behind the second look, at which it could not be marked either. -/
def stillUnmarked : OneSource := (marker.handle ⟨60⟩ InMemory.source unmarked).2

/-- The world behind the third look, at which the source was marked. -/
def marked : OneSource :=
  (marker.handle ⟨120⟩ InMemory.source { stillUnmarked with refusing := false }).2

/-- Two looks that failed, and one that succeeded in marking the source. -/
theorem looks_marked : Looks marker (sourceKey source) [.idle, .failed, .failed] marked := by
  have first : Looks marker (sourceKey source) [.failed] unmarked :=
    Looks.look_of (.start rfl) rfl rfl (by decide +kernel)
  have second : Looks marker (sourceKey source) [.failed, .failed] stillUnmarked :=
    first.look_of rfl rfl (by decide +kernel)
  exact second.look_of rfl rfl (by decide +kernel)

/-- The world behind the third look, once the cluster refuses again. -/
def refusingMarked : OneSource := { marked with refusing := true }

theorem fails_refusingMarked :
    ∃ e, (marker.handle ⟨180⟩ source refusingMarked).1.2 = some e :=
  Option.isSome_iff_exists.mp (by decide +kernel)

/-- The first pass fails. It is the third failure, although the look before it succeeded. -/
theorem backoff_marked :
    (marker.handle ⟨180⟩ source refusingMarked).1.1 =
      some (marker.settings.errorBackoff.delay (Controller.streak [.idle, .failed, .failed])) ∧
    marker.failures (sourceKey source) (marker.handle ⟨180⟩ source refusingMarked).2 = some 3 := by
  obtain ⟨e, failed⟩ := fails_refusingMarked
  have unchanged : (marker.registry.get refusingMarked).find? (sourceKey source) =
      (marker.registry.get marked).find? (sourceKey source) := rfl
  obtain ⟨delay, number, -⟩ := Looks.backoff undisturbed looks_marked unchanged rfl failed
  exact ⟨delay, number⟩

/-- **A success need not start over.** The source was marked without an error, and the failure
that comes next has to wait for twice the first delay, as the third of its kind. -/
theorem longer_after_success :
    (marker.handle ⟨120⟩ InMemory.source { stillUnmarked with refusing := false }).1.2 = none ∧
    (marker.handle ⟨180⟩ source refusingMarked).1.2.isSome ∧
    (marker.handle ⟨180⟩ source refusingMarked).1.1 = some 120 ∧
    marker.failures (sourceKey source) (marker.handle ⟨180⟩ source refusingMarked).2 = some 3 ∧
    marker.settings.errorBackoff.delay 0 = 60 := by
  decide +kernel

end HookRelay.OneSource

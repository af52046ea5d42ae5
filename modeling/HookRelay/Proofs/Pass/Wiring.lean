import HookRelay.Proofs.Pass.OneAdapter
import HookRelay.Proofs.Pass.Readiness

/-!
# How the adapter of a source is wired

An adapter is wired when it is created, by what the pass that missed it knew of the sink and of the
source. Later passes take it as it is. So a source that is reported as ready has an adapter that is
wired as the source asks exactly if what goes into the wiring is what it was for that pass. All
that is told of the source, and the hook, are as the latest pass made them in any case.

## Main definitions

* `Receiver.thinning` : no adapter comes, and none is wired anew
* `Collaborators.KeepsWiring` : adapters are wired when they are created
* `Visit.Relies` : the adapter that a pass relies on, with its environment
* `Visit.Wires` : the environment that a pass has for an adapter

## Main statements

* `Visits.wires` : every adapter has the environment that one of the passes had for it
* `Visits.wiring_iff` : when the adapter of a source that is ready is wired as the source asks
* `stale_wiring` : a source is reported as ready whose adapter sends events to a former sink
-/

namespace HookRelay

variable {W : Type}

/-- No adapter comes, and none is wired anew; any may go. The adapters are seen as their
environments under their names. -/
def Receiver.thinning (wired : W → String → Option (List Receiver.Variable)) : Drift W where
  rel w w' := ∀ name env, wired w' name = some env → wired w name = some env
  refl _ _ _ here := here
  trans first second name env here := first name env (second name env here)

/-- **Adapters of an owner are wired when they are created**, by `Plan.environment`, and only
then. -/
structure Collaborators.KeepsWiring (team : Collaborators W) (uid namespace_ : String)
    (wired : W → String → Option (List Receiver.Variable)) : Prop where
  besides : team.Besides (Receiver.thinning wired)
  lists : ∀ namespace_, (team.receivers.list namespace_).Within (Receiver.thinning wired)
  listed : ∀ {w w' receivers}, team.receivers.list namespace_ w = (.ok receivers, w') →
    ∀ r ∈ receivers, r.isControlledBy uid = true → ∃ env, wired w' r.name = some env
  creates : ∀ plan w name env, wired (team.receivers.create plan w).2 name = some env →
    wired w name = some env ∨ env = plan.environment
  created : ∀ {plan w w' r}, team.receivers.create plan w = (.ok r, w') →
    wired w' r.name = some plan.environment

namespace Pass

open Receiver (wiring wiringFor)

variable {team : Collaborators W} {uid namespace_ : String}
  {wired : W → String → Option (List Receiver.Variable)} {p : Pass W} {w w' : W}

/-! ## What a pass does about the wiring -/

namespace Visit

variable (v : Visit W)

/-- The pass found a sink, and has an environment for an adapter that is to send events there. -/
inductive Wires (uri : String) (env : List Receiver.Variable) : Prop where
  | intro {w₁ : W} {plan : Receiver.Plan} (sink : v.pass.SinkReached v.before uri w₁)
      (planned : Receiver.plan v.pass.settings v.pass.source uri = .ok plan)
      (given : plan.environment = env)

/-- **The adapter that a pass relies on**, with its environment when it was found or created. -/
inductive Relies (wired : W → String → Option (List Receiver.Variable)) (uri : String)
    (r : Receiver) (env : List Receiver.Variable) : Prop where
  | found {w₁ w₂ : W} (sink : v.pass.SinkReached v.before uri w₁)
      (owned : v.pass.ownedReceiver w₁ = (.ok (some r), w₂)) (given : wired w₂ r.name = some env)
  | created {w₁ w₂ w₃ : W} {plan : Receiver.Plan} (sink : v.pass.SinkReached v.before uri w₁)
      (unowned : v.pass.ownedReceiver w₁ = (.ok none, w₂))
      (planned : Receiver.plan v.pass.settings v.pass.source uri = .ok plan)
      (made : v.pass.team.receivers.create plan w₂ = (.ok r, w₃))
      (given : wired w₃ r.name = some env)

variable {v} {uri : String} {env : List Receiver.Variable}

/-- A pass wires adapters as its source asks. -/
theorem Wires.wiring_eq (h : v.Wires uri env) : wiring env = wiringFor v.pass.source uri := by
  obtain ⟨sink, planned, rfl⟩ := h
  rw [(Receiver.plan_for planned).wired, Receiver.wiring_environment]

/-- The adapter that a source has is one that it relies on. -/
theorem exists_relies (keeps : team.KeepsWiring uid namespace_ wired)
    (ours : IsOf team uid namespace_ v.pass) {r : Receiver} {w₂ : W}
    (adapter : v.pass.AdapterReached v.before uri r w₂) : ∃ env, v.Relies wired uri r env := by
  obtain ⟨rfl, rfl, identified⟩ := ours
  obtain ⟨w₁, sink, obtained⟩ := adapter
  cases obtained with
  | found owned =>
    cases own : v.pass.source.metadata.uid with
    | none =>
      rw [ownedReceiver, own] at owned
      cases owned
    | some u =>
      obtain ⟨receivers, listed, found⟩ := ownedReceiver_ok own owned
      have controlled := List.find?_some found
      cases identified u own
      obtain ⟨env, given⟩ := keeps.listed listed r (List.mem_of_find?_eq_some found) controlled
      exact ⟨env, .found sink owned given⟩
  | created unowned made =>
    obtain ⟨plan, w₃, planned, created, -⟩ := createReceiver_ok made
    exact ⟨_, .created sink unowned planned created (keeps.created created)⟩

end Visit

/-! ## Passes, one after the other -/

/-- **Every adapter has the environment that one of the passes had for it.** -/
theorem Visits.wires (keeps : team.KeepsWiring uid namespace_ wired) {visits : List (Visit W)}
    {w₀ : W} (fresh : ∀ name, wired w₀ name = none)
    (run : Visits (Receiver.thinning wired) (fun _ => IsOf team uid namespace_) w₀ visits w) :
    ∀ name env, wired w name = some env → ∃ v ∈ visits, ∃ uri, v.Wires uri env := by
  induction run with
  | start =>
    intro name env here
    rw [fresh] at here
    cases here
  | @pass visits v run ours ih =>
    intro name env here
    obtain ⟨rfl, rfl, -⟩ := ours
    have before : wired v.before name = some env → ∃ v' ∈ v :: visits, ∃ uri, v'.Wires uri env :=
      fun here => (ih name env here).imp fun v' h => ⟨List.mem_cons_of_mem v h.1, h.2⟩
    have onAdapter := converge_onAdapter keeps.besides keeps.lists v.before
    change wired (v.pass.converge v.before).2 name = some env at here
    generalize (v.pass.converge v.before).2 = w' at onAdapter here
    cases onAdapter with
    | untouched moved => exact before (moved name env here)
    | asked sink unowned planned left =>
      obtain old | rfl := keeps.creates _ _ name env (left name env here)
      · have listed := (within_ownedReceiver keeps.lists).moved unowned
        exact before (sink.drifts keeps.besides name env (listed name env old))
      · exact ⟨v, List.mem_cons_self .., _, sink, planned, rfl⟩
  | meanwhile run moved ih => exact fun name env here => ih name env (moved name env here)

/-- **When the adapter of a source that is ready is wired as the source asks.** The adapter that the
pass relied on has the environment that one of the passes had for it, so that it suits the source
and its sink exactly if that pass knew the same of them. -/
theorem Visits.wiring_iff (keeps : team.KeepsWiring uid namespace_ wired) {v : Visit W}
    {visits : List (Visit W)} {w₀ : W} (fresh : ∀ name, wired w₀ name = none)
    (run : Visits (Receiver.thinning wired) (fun _ => IsOf team uid namespace_) w₀ (v :: visits) w)
    {requeue : Requeue} (done : v.outcome.result = .ok requeue)
    (ready : v.outcome.status.isReady = true) :
    ∃ uri r env, v.outcome.status.sinkUri = some uri ∧ v.Relies wired uri r env ∧
      ∃ maker ∈ v :: visits, ∃ uri', maker.Wires uri' env ∧
        (wiring env = wiringFor v.pass.source uri ↔ uri' = uri ∧
          maker.pass.source.spec.eventSource = v.pass.source.spec.eventSource ∧
          maker.pass.source.spec.secretToken = v.pass.source.spec.secretToken) := by
  obtain ⟨earlier, ours⟩ := run.of_cons
  obtain ⟨tokens, inScope, synced, told, hook, result⟩ := accomplished_of_ok done ready
  obtain ⟨w₂, cache, adapter, -⟩ := tokens
  obtain ⟨env, relies⟩ := Visit.exists_relies keeps ours adapter.adapter
  have made : ∃ maker ∈ v :: visits, ∃ uri, maker.Wires uri env := by
    obtain ⟨rfl, rfl, -⟩ := ours
    cases relies with
    | found sink owned given =>
      -- what is found was there before the pass
      have listed := (within_ownedReceiver keeps.lists).moved owned
      have before := sink.drifts keeps.besides _ env (listed _ env given)
      obtain ⟨maker, mem, uri, wires⟩ := earlier.wires keeps fresh _ env before
      exact ⟨maker, List.mem_cons_of_mem v mem, uri, wires⟩
    | created sink unowned planned made given =>
      rw [keeps.created made] at given
      exact ⟨v, List.mem_cons_self .., _, sink, planned, Option.some.inj given⟩
  obtain ⟨maker, mem, uri', wires⟩ := made
  refine ⟨_, _, env, told, relies, maker, mem, uri', wires, ?_⟩
  rw [wires.wiring_eq, Receiver.wiringFor_inj]

/-! ## In memory -/

/-- The name of an adapter in memory. -/
def nameOf (plan : Receiver.Plan) : String := plan.generateName ++ "abcde"

/-- The environments of adapters in memory, which are those of the plans that they were created by,
if they were. -/
def wiredInMemory (w : InMemory) (name : String) : Option (List Receiver.Variable) :=
  if w.receivers.adapters.any fun a => a.2.name = name then
    some ((w.receivers.created.find? fun plan => nameOf plan = name).elim []
      Receiver.Plan.environment)
  else none

/-- A new adapter has the environment of its plan, and no other one changes. -/
theorem wiredInMemory_started (plan : Receiver.Plan) (w : InMemory) (name : String) :
    wiredInMemory { w with receivers := { w.receivers.add plan.namespace_ (w.receivers.started plan)
      with created := plan :: w.receivers.created } } name =
      if nameOf plan = name then some plan.environment else wiredInMemory w name := by
  have called : (w.receivers.started plan).name = nameOf plan := rfl
  rw [wiredInMemory, wiredInMemory]
  simp only [Receiver.Memory.add, List.any_append, List.any_cons, List.any_nil, List.find?_cons,
    called]
  by_cases here : nameOf plan = name
  · simp [here]
  · rw [if_neg here, decide_eq_false here, Bool.or_false, Bool.or_false]

theorem keepsWiring_inMemory (uid namespace_ : String) :
    InMemory.collaborators.KeepsWiring uid namespace_ wiredInMemory where
  besides := {
    sinks _ _ _ _ _ here := here
    secrets _ _ _ _ _ here := here
    notices _ _ _ _ here := here
    counters _ _ _ _ here := here
    provider := {
      opens scope token w name env here := by
        rw [show InMemory.collaborators.hooks.client scope token w = _ from
          Hook.Store.provider_apply InMemory.hooksPart scope token w] at here
        exact here
      clients run := by
        rw [Hook.Store.client_of_provider run]
        exact ⟨fun _ _ _ _ here => here, fun _ _ _ _ here => here, fun _ _ _ _ _ here => here,
          fun _ _ _ _ here => here⟩ } }
  lists _ _ _ _ here := here
  listed {w w' receivers} run r mem _ := by
    have answer : (Receiver.Memory.list namespace_ w.receivers).1 = .ok receivers :=
      congrArg Prod.fst run
    have same : wiredInMemory w' = wiredInMemory w := congrArg (fun s => wiredInMemory s.2) run.symm
    obtain ⟨-, rfl⟩ := Receiver.Memory.eq_within_of_list answer
    obtain ⟨a, here, rfl⟩ := List.mem_map.1 mem
    have there := (List.mem_filter.1 here).1
    rw [same]
    exact ⟨_, if_pos (List.any_eq_true.2 ⟨a, there, decide_eq_true rfl⟩)⟩
  creates plan w name env here := by
    obtain ⟨e, failed⟩ | made := InMemory.create_adapter plan w
    · rw [failed] at here
      exact .inl here
    · rw [made, wiredInMemory_started] at here
      split at here
      · exact .inr (Option.some.inj here).symm
      · exact .inl here
  created {plan w w' r} run := by
    obtain ⟨e, failed⟩ | made := InMemory.create_adapter plan w
    · rw [failed] at run
      cases run
    · rw [made] at run
      cases run
      exact (wiredInMemory_started plan w _).trans (if_pos rfl)

/-- A pass that creates the adapter of the source. -/
def installed : Visit InMemory := ⟨InMemory.passOver InMemory.source, InMemory.untouched⟩

/-- The pass after it, once the sink of the source is found at another address. -/
def moved : Visit InMemory where
  pass := InMemory.passOver { InMemory.source with status := some installed.outcome.status }
  before := { installed.after with sinks := ⟨.address "http://moved", []⟩ }

theorem visits_moved : Visits (Receiver.thinning wiredInMemory)
    (fun _ => IsOf InMemory.collaborators "u-1" "team") InMemory.untouched [moved, installed]
    moved.after := by
  have ours (st : Option Source.Status) : IsOf InMemory.collaborators "u-1" "team"
      (InMemory.passOver { InMemory.source with status := st }) :=
    ⟨rfl, rfl, fun u identified => (Option.some.inj identified).symm⟩
  have first : Visits (Receiver.thinning wiredInMemory)
      (fun _ => IsOf InMemory.collaborators "u-1" "team") InMemory.untouched [installed]
      installed.after := .pass .start (ours none)
  exact .pass (first.meanwhile fun name env here => here) (ours _)

/-- The second pass reports the source as ready: with an adapter that is wired as the source asks
exactly if one of the two passes had the same sink and wired it. -/
theorem wiring_iff_moved : moved.outcome.result = .ok .resync ∧
    moved.outcome.status.isReady = true ∧
    ∃ uri r env, moved.outcome.status.sinkUri = some uri ∧ moved.Relies wiredInMemory uri r env ∧
      ∃ maker ∈ [moved, installed], ∃ uri', maker.Wires uri' env ∧
        (wiring env = wiringFor moved.pass.source uri ↔ uri' = uri ∧
          maker.pass.source.spec.eventSource = moved.pass.source.spec.eventSource ∧
          maker.pass.source.spec.secretToken = moved.pass.source.spec.secretToken) := by
  have done : moved.outcome.result = .ok .resync := rfl
  have ready : moved.outcome.status.isReady = true := by decide +kernel
  exact ⟨done, ready,
    visits_moved.wiring_iff (keepsWiring_inMemory "u-1" "team") (fun _ => rfl) done ready⟩

/-- **A wiring that is stale**: the second pass reports the source as ready, and the adapter that it
relies on sends events to where the sink was before. -/
theorem stale_wiring : Visits (Receiver.thinning wiredInMemory)
      (fun _ => IsOf InMemory.collaborators "u-1" "team") InMemory.untouched [moved, installed]
      moved.after ∧
    moved.outcome.result = .ok .resync ∧ moved.outcome.status.isReady = true ∧
    ∃ uri r env, moved.outcome.status.sinkUri = some uri ∧ moved.Relies wiredInMemory uri r env ∧
      wiring env ≠ wiringFor moved.pass.source uri := by
  refine ⟨visits_moved, rfl, by decide +kernel, "http://moved", _, _, rfl,
    .found ⟨by decide +kernel, rfl⟩ rfl rfl, by decide +kernel⟩

end Pass

end HookRelay

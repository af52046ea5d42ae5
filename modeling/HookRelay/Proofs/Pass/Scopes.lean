import HookRelay.Proofs.Pass.Readiness
import HookRelay.Proofs.Pass.Served
import HookRelay.Proofs.Pass.Throughout
import HookRelay.Proofs.Pass.Visits
import HookRelay.Proofs.World.InMemory

/-!
# A source whose scope is edited

A source records the number of its hook, its `webhookId`, and not the scope that the hook is in. So
when the scope of a source is edited, the next pass looks for that number in the new scope, and the
hook in the former one is left where it is. What passes do to the hooks of one scope concerns no
other one; among the hooks that they create while the scope stays the same, there is the recorded
one at most. There need not be any: a hook that has the number already is taken over, be it one of an
earlier pass or somebody else's.

## Main definitions

* `Collaborators.ServesScopes` : GitLab serves the hooks of every scope
* `Holds`, `Visit.Creates` : a hook is there, and a pass creates one
* `Continues` : passes that continue where the one before arrived
* `since` : the passes since the scope was last edited

## Main statements

* `Visit.effect` : what a pass does to the hooks of any scope
* `Visits.created_recorded` : a hook that was created since an edit is the recorded one
* `Visits.left_hooks` : which hooks there are behind a pass with a ready source
* `hook_left_behind` : a hook that stays on a scope that its source has left
-/

namespace HookRelay

open Hook (Held Synced)

variable {W : Type}

/-- **GitLab serves the hooks of every scope**, each from a store of its own: as long as there are
hooks that `gitlab` tells of, it answers every call. -/
structure Collaborators.ServesScopes (gitlab : Scope → W → Option Held) (team : Collaborators W) :
    Prop where
  serves : ∀ σ, team.ServesHooks σ (gitlab σ)
  apart : ∀ {σ τ}, τ ≠ σ → team.hooks.WithinOn (Drift.fixing (gitlab τ)) σ

namespace Pass

variable {gitlab : Scope → W → Option Held} {p : Pass W} {w w' : W} {σ τ : Scope} {id : Int}
  {hooks : Held}

/-- GitLab holds a hook in a scope, in the store that `gitlab` has for it. -/
def Holds (gitlab : Scope → W → Option Held) (w : W) (τ : Scope) (id : Int) : Prop :=
  ∃ hooks, gitlab τ w = some hooks ∧ (hooks id).isSome

theorem holds_iff (up : gitlab τ w = some hooks) : Holds gitlab w τ id ↔ (hooks id).isSome := by
  simp [Holds, up]

/-! ## One pass -/

/-- **A pass leaves the hooks of all other scopes alone.** -/
theorem converge_apart (serves : p.team.ServesScopes gitlab)
    (other : p.source.spec.scope.toOption ≠ some τ) (w : W) :
    gitlab τ (p.converge w).2 = gitlab τ w := by
  have elsewhere : ∀ {scope}, p.source.spec.scope = .ok scope → τ ≠ scope := by
    rintro scope inScope rfl
    exact other (by rw [inScope]; rfl)
  have counters := (serves.serves τ).others.counters
  have onHook := converge_onHook (serves.serves τ).others w
  generalize (p.converge w).2 = w' at onHook ⊢
  cases onHook with
  | untouched moved kept => exact moved
  | @synced w₃ w₄ scope access options outcome moved inScope synced recorded =>
    have made := (within_syncHook (serves.apart (elsewhere inScope)) counters _ _ _).moved synced
    exact (gitlab_proclaim (serves.serves τ) scope outcome).trans (Eq.trans made moved)
  | failed moved inScope failed left kept =>
    have tried := (within_syncHook (serves.apart (elsewhere inScope)) counters _ _ _).moved failed
    exact Eq.trans left (Eq.trans tried moved)

namespace Visit

variable (v : Visit W)

/-- The scope of the source that the pass looks at. -/
def scope? : Option Scope := v.pass.source.spec.scope.toOption

/-- The pass creates a hook in a scope. -/
def Creates (gitlab : Scope → W → Option Held) (τ : Scope) (id : Int) : Prop :=
  ¬ Holds gitlab v.before τ id ∧ Holds gitlab v.after τ id

variable {v} (serves : v.pass.team.ServesScopes gitlab) (up : gitlab τ v.before = some hooks)
include serves up

/-- **What a pass does to the hooks of any scope**: nothing, or the scope is its own, and it writes
the fields of one hook and records its number. -/
theorem effect :
    (gitlab τ v.after = some hooks ∧
      (v.scope? = some τ → v.outcome.status.webhookId = v.pass.source.statusOrBlank.webhookId)) ∨
    v.scope? = some τ ∧ ∃ outcome options,
      Synced hooks v.pass.source.statusOrBlank.webhookId outcome ∧
      gitlab τ v.after = some (Function.update hooks outcome.id (some options)) ∧
      v.outcome.status.webhookId = some outcome.id := by
  by_cases own : v.scope? = some τ
  · have same : ∀ scope, v.pass.source.spec.scope = .ok scope → scope = τ := by
      intro scope inScope
      rw [scope?, inScope] at own
      exact Option.some.inj own
    exact (converge_served (serves.serves τ) same up).imp (fun kept => ⟨kept.1, fun _ => kept.2⟩)
      fun written => ⟨own, written⟩
  · exact .inl ⟨(converge_apart serves own v.before).trans up, fun inScope => absurd inScope own⟩

theorem up_after : ∃ hooks, gitlab τ v.after = some hooks := by
  obtain ⟨left, -⟩ | ⟨-, outcome, options, -, left, -⟩ := effect serves up
  · exact ⟨hooks, left⟩
  · exact ⟨_, left⟩

/-- No pass deletes a hook. -/
theorem holds_after (here : Holds gitlab v.before τ id) : Holds gitlab v.after τ id := by
  rw [holds_iff up] at here
  obtain ⟨left, -⟩ | ⟨-, outcome, options, -, left, -⟩ := effect serves up
  · exact (holds_iff left).2 here
  · rw [holds_iff left, Function.update_apply]
    split
    · rfl
    · exact here

/-- A recorded hook that is there stays recorded. -/
theorem keeps_recorded (own : v.scope? = some τ)
    (known : v.pass.source.statusOrBlank.webhookId = some id)
    (there : Holds gitlab v.before τ id) : v.outcome.status.webhookId = some id := by
  rw [holds_iff up] at there
  obtain ⟨-, kept⟩ | ⟨-, outcome, options, synced, -, written⟩ := effect serves up
  · rw [kept own, known]
  · rw [known] at synced
    cases synced with
    | updated _ => exact written
    | recreated gone fresh =>
      rw [gone] at there
      cases there

/-- A hook that a pass creates is in its scope, and recorded. -/
theorem Creates.recorded (creates : v.Creates gitlab τ id) :
    v.scope? = some τ ∧ v.outcome.status.webhookId = some id := by
  obtain ⟨absent, here⟩ := creates
  rw [holds_iff up] at absent
  obtain ⟨left, -⟩ | ⟨own, outcome, options, -, left, written⟩ := effect serves up
  · exact absurd ((holds_iff left).1 here) absent
  · rw [holds_iff left, Function.update_apply] at here
    split at here
    · next same => exact ⟨own, same ▸ written⟩
    · exact absurd here absent

end Visit

/-! ## Passes, one after the other -/

/-- The number of the hook that the latest pass recorded, its `webhookId`. -/
def recordedBy : List (Visit W) → Option Int
  | [] => none
  | v :: _ => v.outcome.status.webhookId

/-- **Passes that continue where the one before arrived**: each but the first finds the number that
the one before recorded. Anything else in the source may be edited, its scope included, and the
first one may find any number or none. -/
structure Continues (team : Collaborators W) (visits : List (Visit W)) (p : Pass W) : Prop where
  team : p.team = team
  continued : visits ≠ [] → p.source.statusOrBlank.webhookId = recordedBy visits

/-- The passes since the scope, by `projectUrl` or `groupUrl`, was last edited: the latest ones that
are over the scope `σ`. -/
def since (σ : Scope) (visits : List (Visit W)) : List (Visit W) :=
  visits.takeWhile fun u => u.scope? = some σ

theorem since_cons {v : Visit W} (own : v.scope? = some σ) (visits : List (Visit W)) :
    since σ (v :: visits) = v :: since σ visits :=
  List.takeWhile_cons_of_pos (decide_eq_true own)

theorem since_cons_of_ne {v : Visit W} (other : v.scope? ≠ some σ) (visits : List (Visit W)) :
    since σ (v :: visits) = [] :=
  List.takeWhile_cons_of_neg (by simpa using other)

section Visits

variable {team : Collaborators W} (serves : team.ServesScopes gitlab) {w₀ : W}
  (upThen : ∀ τ, ∃ hooks, gitlab τ w₀ = some hooks) {visits : List (Visit W)}
  (run : Visits (Drift.fixing fun w τ => gitlab τ w) (Continues team) w₀ visits w)
include serves upThen run

theorem Visits.up (τ : Scope) : ∃ hooks, gitlab τ w = some hooks := by
  induction run with
  | start => exact upThen τ
  | pass run ours ih =>
    obtain ⟨hooks, up⟩ := ih
    exact Visit.up_after (ours.team ▸ serves) up
  | meanwhile run same ih =>
    obtain ⟨hooks, up⟩ := ih
    exact ⟨hooks, (congrFun same τ).trans up⟩

/-- **What passes create stays.** -/
theorem Visits.holds {u : Visit W} (mem : u ∈ visits) (there : Holds gitlab u.after τ id) :
    Holds gitlab w τ id := by
  induction run with
  | start => cases mem
  | @pass visits v run ours ih =>
    obtain rfl | mem := List.mem_cons.1 mem
    · exact there
    · obtain ⟨hooks, up⟩ := run.up serves upThen τ
      exact Visit.holds_after (ours.team ▸ serves) up (ih mem)
  | @meanwhile visits w w' run same ih =>
    obtain ⟨hooks, up, here⟩ := ih mem
    exact ⟨hooks, (congrFun same τ).trans up, here⟩

/-- **A hook that was created since an edit is the recorded one**, in the scope of the edit. -/
theorem Visits.created_recorded {u : Visit W} (mem : u ∈ since σ visits)
    (creates : u.Creates gitlab τ id) : τ = σ ∧ recordedBy visits = some id := by
  induction run with
  | start => cases mem
  | @pass visits v run ours ih =>
    obtain ⟨rfl, continued⟩ := ours
    obtain ⟨hooks, up⟩ := run.up serves upThen τ
    by_cases own : v.scope? = some σ
    · rw [since_cons own] at mem
      obtain rfl | earlier := List.mem_cons.1 mem
      · obtain ⟨inScope, recorded⟩ := creates.recorded serves up
        exact ⟨Option.some.inj (inScope.symm.trans own), recorded⟩
      · -- what an earlier pass created is there and recorded, so that this pass keeps it
        obtain ⟨rfl, recorded⟩ := ih earlier
        have among := (List.takeWhile_sublist _).mem earlier
        have known := (continued (List.ne_nil_of_mem among)).trans recorded
        have there := run.holds serves upThen among creates.2
        exact ⟨rfl, Visit.keeps_recorded serves up own known there⟩
    · rw [since_cons_of_ne own] at mem
      cases mem
  | meanwhile run same ih => exact ih mem

end Visits

/-- Behind a pass that ends well with a ready source, the recorded hook is there. -/
theorem Accomplished.holds (serves : p.team.ServesScopes gitlab)
    (up : ∀ τ, ∃ hooks, gitlab τ w = some hooks) (h : p.Accomplished w (p.converge w).1) :
    ∃ σ id, p.source.spec.scope = .ok σ ∧ (p.converge w).1.status.webhookId = some id ∧
      Holds gitlab (p.converge w).2 σ id := by
  cases h with
  | @intro uri address access secret r w₃ w₄ scope outcome tokens inScope synced _ hook _ =>
    have serves := serves.serves scope
    obtain ⟨hooks, up⟩ := up scope
    obtain ⟨outcome, w', run, -, left⟩ := syncHook_serves serves
      (Eq.trans (tokens.moved serves.others) up) access (p.hookOptions address secret)
      p.source.statusOrBlank.webhookId
    rw [synced] at run
    cases run
    have after : gitlab scope (p.converge w).2 =
        some (Function.update hooks outcome.id (some (p.hookOptions address secret))) := by
      have ends : p.Ends (p.complete p.source.statusOrBlank) w _ _ :=
        .hookSynced tokens inScope synced
      rw [converge_apply, ends.run_eq]
      exact (gitlab_proclaim serves scope outcome).trans left
    refine ⟨scope, outcome.id, inScope, hook, (holds_iff after).2 ?_⟩
    rw [Function.update_self]
    rfl

/-- **Which hooks there are behind a pass with a ready source**, if GitLab answers every call. The
recorded one is there, in the scope of the source, and no pass has created another one since that
scope was last edited, on any scope. The recorded hook may itself be older than the edit, or somebody
else's: a hook that has the recorded number is taken for the source's own. All hooks that passes have
created are still there, those on former scopes as well. -/
theorem Visits.left_hooks {team : Collaborators W} (serves : team.ServesScopes gitlab) {w₀ : W}
    (upThen : ∀ τ, ∃ hooks, gitlab τ w₀ = some hooks) {v : Visit W} {visits : List (Visit W)}
    (run : Visits (Drift.fixing fun w τ => gitlab τ w) (Continues team) w₀ (v :: visits) w)
    {requeue : Requeue} (done : v.outcome.result = .ok requeue)
    (ready : v.outcome.status.isReady = true) :
    ∃ σ id, v.scope? = some σ ∧ v.outcome.status.webhookId = some id ∧ Holds gitlab w σ id ∧
      (∀ u ∈ since σ (v :: visits), ∀ τ other, u.Creates gitlab τ other → τ = σ ∧ other = id) ∧
      ∀ u ∈ v :: visits, ∀ τ other, u.Creates gitlab τ other → Holds gitlab w τ other := by
  obtain ⟨earlier, ours⟩ := run.of_cons
  obtain ⟨σ, id, inScope, recorded, here⟩ := (accomplished_of_ok done ready).holds
    (ours.team ▸ serves) (earlier.up serves upThen)
  refine ⟨σ, id, congrArg Except.toOption inScope, recorded,
    run.holds serves upThen (List.mem_cons_self ..) here, fun u mem τ other creates => ?_,
    fun u mem τ other creates => run.holds serves upThen mem creates.2⟩
  obtain ⟨rfl, known⟩ := run.created_recorded serves upThen mem creates
  exact ⟨rfl, Option.some.inj (known.symm.trans recorded)⟩

end Pass

/-! ## A GitLab with a store for every scope -/

/-- A world in memory whose hooks are in a store for every scope. -/
structure ByScope where
  memory : InMemory
  stores : Scope → Hook.Store

namespace ByScope

/-- What is in memory. -/
def memoryPart : Part ByScope InMemory := ⟨ByScope.memory, fun m w => { w with memory := m }⟩

/-- The hooks of a scope. -/
def storePart (σ : Scope) : Part ByScope Hook.Store :=
  ⟨fun w => w.stores σ, fun s w => { w with stores := Function.update w.stores σ s }⟩

/-- The collaborators of a pass, with a store of hooks for every scope. -/
def collaborators : Collaborators ByScope where
  secrets := Credential.Memory.secretsOf (memoryPart.inside InMemory.secretsPart)
  hooks := ⟨fun σ token => (Hook.Store.provider (storePart σ)).client σ token⟩
  receivers := Receiver.Memory.platform (memoryPart.inside InMemory.receiversPart)
  sinks := Sink.Memory.resolver (memoryPart.inside InMemory.sinksPart)
  notices := ⟨fun n => memoryPart.act (InMemory.publish n)⟩
  count c := memoryPart.act (InMemory.count c)

/-- The hooks of a scope as long as nothing is to fail. -/
noncomputable def gitlab (σ : Scope) (w : ByScope) : Option Held := (w.stores σ).served

theorem lawful_storePart (σ : Scope) : (storePart σ).Lawful := by
  intro s w
  show Function.update w.stores σ s σ = s
  rw [Function.update_self]

/-- The store of a scope is no part of another one. -/
theorem gitlab_set {σ τ : Scope} (ne : τ ≠ σ) (s : Hook.Store) (w : ByScope) :
    gitlab τ ((storePart σ).set s w) = gitlab τ w := by
  show (Function.update w.stores σ s τ).served = (w.stores τ).served
  rw [Function.update_of_ne ne]

theorem servesScopes : collaborators.ServesScopes gitlab where
  serves σ := {
    others := {
      sinks _ _ _ := rfl
      lists _ _ := rfl
      creates _ _ := rfl
      secrets _ _ _ := rfl
      notices _ _ _ := rfl
      counters _ _ := rfl }
    notices _ _ := rfl
    provider := fun token up => Hook.Store.provider_serves (lawful_storePart σ) σ token up }
  apart {σ τ} ne := {
    opens token w := by
      rw [show collaborators.hooks.client σ token w = _ from
        Hook.Store.provider_apply (storePart σ) σ token w]
      exact gitlab_set ne _ w
    clients run := by
      rw [Hook.Store.client_of_provider run]
      exact ⟨fun _ w => gitlab_set ne _ w, fun _ w => gitlab_set ne _ w,
        fun _ _ w => gitlab_set ne _ w, fun _ w => gitlab_set ne _ w⟩ }

/-- A pass over a source, with a store of hooks for every scope. -/
def passOver (s : Source) : Pass ByScope := ⟨collaborators, {}, ⟨0⟩, s⟩

/-- A world without hooks in which a source has an adapter. -/
def ready : ByScope := ⟨InMemory.ready, fun _ => .empty⟩

/-- The project that the source is moved to. -/
def otherProject : Scope := ⟨.project, "http://[::1]/", "a/c"⟩

/-- A first pass. -/
def first : Pass.Visit ByScope := ⟨passOver InMemory.source, ready⟩

/-- The pass after it, once the source is on another project. -/
def second : Pass.Visit ByScope where
  pass := passOver { InMemory.source with
    spec := { InMemory.source.spec with projectUrl := some "http://[::1]/a/c" }
    status := some first.outcome.status }
  before := first.after

end ByScope

namespace Pass

open ByScope (gitlab first second otherProject)

theorem visits_moved_scope : Visits (Drift.fixing fun w τ => gitlab τ w)
    (Continues ByScope.collaborators) ByScope.ready [second, first] second.after :=
  .pass (.pass .start ⟨rfl, fun _ => rfl⟩) ⟨rfl, fun _ => rfl⟩

theorem gitlab_ready (τ : Scope) : ∃ hooks, gitlab τ ByScope.ready = some hooks :=
  ⟨_, Hook.Store.Up.served ⟨rfl, rfl, fun _ _ => rfl⟩⟩

theorem ready_second : second.outcome.result = .ok .resync ∧
    second.outcome.status.isReady = true :=
  ⟨by decide +kernel, by decide +kernel⟩

/-- Behind the pass over the source on the other project, its hook there is the only new one. -/
theorem left_hooks_moved : second.outcome.result = .ok .resync ∧
    second.outcome.status.isReady = true ∧
    ∃ σ id, second.scope? = some σ ∧ second.outcome.status.webhookId = some id ∧
      Holds gitlab second.after σ id ∧
      (∀ u ∈ since σ [second, first], ∀ τ other, u.Creates gitlab τ other → τ = σ ∧ other = id) ∧
      ∀ u ∈ [second, first], ∀ τ other, u.Creates gitlab τ other →
        Holds gitlab second.after τ other := by
  obtain ⟨done, ready⟩ := ready_second
  exact ⟨done, ready,
    visits_moved_scope.left_hooks ByScope.servesScopes gitlab_ready done ready⟩

theorem creates_first : first.Creates gitlab InMemory.project 1 := by
  constructor
  · rintro ⟨hooks, up, here⟩
    obtain ⟨-, rfl⟩ := Hook.Store.up_of_served up
    cases here
  · have done : first.outcome.result = .ok .resync := by decide +kernel
    have ready : first.outcome.status.isReady = true := by decide +kernel
    obtain ⟨σ, id, inScope, recorded, here⟩ :=
      (accomplished_of_ok done ready).holds ByScope.servesScopes gitlab_ready
    have number : first.outcome.status.webhookId = some 1 := by decide +kernel
    have place : first.pass.source.spec.scope = .ok InMemory.project := rfl
    cases Except.ok.inj (inScope.symm.trans place)
    cases Option.some.inj (recorded.symm.trans number)
    exact here

/-- **A hook is left behind**: the source was moved to another project and is ready, and the hook
that the first pass created is still on the first project. -/
theorem hook_left_behind : Visits (Drift.fixing fun w τ => gitlab τ w)
      (Continues ByScope.collaborators) ByScope.ready [second, first] second.after ∧
    second.outcome.result = .ok .resync ∧ second.outcome.status.isReady = true ∧
    second.scope? = some otherProject ∧ InMemory.project ≠ otherProject ∧
    first.Creates gitlab InMemory.project 1 ∧
    Holds gitlab second.after InMemory.project 1 :=
  ⟨visits_moved_scope, ready_second.1, ready_second.2, by decide +kernel, by decide,
    creates_first,
    visits_moved_scope.holds ByScope.servesScopes gitlab_ready (by simp) creates_first.2⟩

end Pass

end HookRelay

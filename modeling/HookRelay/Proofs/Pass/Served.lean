import HookRelay.Pass.Finalize
import HookRelay.Proofs.Hook.Keeping
import HookRelay.Proofs.Pass.OnHook

/-!
# A pass with a GitLab that is up

While GitLab is up and nobody else touches the hooks of the scope, a pass leaves them all as they
are, or writes the fields of one: of the recorded hook if it is there, and of a new one otherwise.
A pass that takes the source down deletes the recorded hook at most.

## Main definitions

* `Collaborators.ServesHooks` : GitLab is up, and nobody else touches the hooks

## Main statements

* `Pass.syncHook_serves` : the hook is made as it should be
* `Pass.converge_served` : what a pass does to the hooks
* `Pass.finalize_served` : what taking a source down does to the hooks
-/

namespace HookRelay

open Hook (Held Synced)

variable {W : Type}

/-- **GitLab serves the hooks of a scope**, and no other collaborator touches them. -/
structure Collaborators.ServesHooks (team : Collaborators W) (σ : Scope)
    (gitlab : W → Option Held) : Prop where
  others : team.Within (Drift.fixing gitlab)
  notices : ∀ n, (team.notices.publish n).Within (Drift.fixing gitlab)
  provider : team.hooks.Serves σ gitlab

namespace Pass

variable {p : Pass W} {σ : Scope} {gitlab : W → Option Held} {hooks : Held} {w : W}

theorem syncHook_serves (serves : p.team.ServesHooks σ gitlab) (up : gitlab w = some hooks)
    (access : String) (options : Hook.Options) (recorded : Option Int) :
    ∃ outcome w', p.syncHook σ access options recorded w = (.ok outcome, w') ∧
      Synced hooks recorded outcome ∧
      gitlab w' = some (Function.update hooks outcome.id (some options)) := by
  obtain ⟨client, w₁, opened, able, left⟩ := serves.provider access up
  obtain ⟨outcome, w', run, synced, left⟩ :=
    Hook.sync_serves serves.others.counters able left options recorded
  refine ⟨outcome, w', ?_, synced, left⟩
  rw [syncHook, Act.bind_apply, opened]
  exact run

theorem gitlab_proclaim (serves : p.team.ServesHooks σ gitlab) (scope : Scope)
    (outcome : Hook.Outcome) : gitlab (p.proclaim scope outcome w).2 = gitlab w := by
  rw [proclaim]
  split
  · exact serves.notices _ w
  · rfl

/-- **What a pass does to the hooks** of a GitLab that is up: nothing, or it writes the fields of
one and records its number. -/
theorem converge_served (serves : p.team.ServesHooks σ gitlab)
    (same : ∀ scope, p.source.spec.scope = .ok scope → scope = σ) (up : gitlab w = some hooks) :
    (gitlab (p.converge w).2 = some hooks ∧
      (p.converge w).1.status.webhookId = p.source.statusOrBlank.webhookId) ∨
    ∃ outcome options, Synced hooks p.source.statusOrBlank.webhookId outcome ∧
      gitlab (p.converge w).2 = some (Function.update hooks outcome.id (some options)) ∧
      (p.converge w).1.status.webhookId = some outcome.id := by
  have onHook := converge_onHook serves.others w
  generalize (p.converge w).2 = w' at onHook ⊢
  cases onHook with
  | untouched moved kept => exact .inl ⟨Eq.trans moved up, kept⟩
  | @synced w₃ w₄ scope access options outcome moved inScope synced recorded =>
    cases same scope inScope
    obtain ⟨outcome', w', run, done, left⟩ :=
      syncHook_serves serves (Eq.trans moved up) access options p.source.statusOrBlank.webhookId
    rw [synced] at run
    cases run
    refine .inr ⟨outcome, options, done, ?_, recorded⟩
    rw [gitlab_proclaim serves, left]
  | @failed w₃ w₄ _ scope access options e moved inScope failed left kept =>
    -- a GitLab that is up does not refuse
    cases same scope inScope
    obtain ⟨outcome', w', run, -, -⟩ :=
      syncHook_serves serves (Eq.trans moved up) access options p.source.statusOrBlank.webhookId
    rw [failed] at run
    cases run

/-! ## Taking a source down -/

theorem deleteWith_served (serves : p.team.ServesHooks σ gitlab) (up : gitlab w = some hooks)
    (access : String) (id : Int) :
    gitlab (p.deleteWith σ access id w).2 = some (Function.update hooks id none) := by
  obtain ⟨client, w₁, opened, able, left⟩ := serves.provider access up
  obtain ⟨gone, w', run, left⟩ := Hook.remove_serves serves.others.counters able left id
  rw [deleteWith, Act.bind_apply, opened]
  show gitlab (p.deleteThrough client id w₁).2 = _
  rw [deleteThrough, Act.bind_apply, run]
  exact left

theorem deleteHook_served (serves : p.team.ServesHooks σ gitlab)
    (same : ∀ scope, p.source.spec.scope = .ok scope → scope = σ) (up : gitlab w = some hooks)
    (id : Int) :
    gitlab (p.deleteHook id w).2 = some hooks ∨
      gitlab (p.deleteHook id w).2 = some (Function.update hooks id none) := by
  unfold deleteHook
  cases inScope : p.source.spec.scope with
  | error fault => exact .inl up
  | ok scope =>
    cases same scope inScope
    have read := Credential.within_resolve (serves.others.secrets p.namespace_)
      p.source.spec.accessToken []
    rcases resolved : Credential.resolve p.team.secrets p.namespace_ p.source.spec.accessToken [] w
      with ⟨⟨token, cache⟩, w₁⟩
    have up₁ : gitlab w₁ = some hooks := Eq.trans (read.moved resolved) up
    dsimp only
    rw [Act.bind_apply, resolved]
    cases token with
    | error e => exact .inl up₁
    | ok token => exact .inr (deleteWith_served serves up₁ token id)

theorem gitlab_report (serves : p.team.ServesHooks σ gitlab) (id : Int) (fate : Fate) :
    gitlab (p.report id fate w).2 = gitlab w := by
  cases fate with
  | deleted => rfl
  | abandoned why => exact serves.notices _ w

/-- **What taking a source down does to the hooks**: nothing, or it deletes the recorded one. -/
theorem finalize_served (serves : p.team.ServesHooks σ gitlab)
    (same : ∀ scope, p.source.spec.scope = .ok scope → scope = σ) (up : gitlab w = some hooks) :
    gitlab (p.finalize w).2 = some hooks ∨
    ∃ id, p.source.statusOrBlank.webhookId = some id ∧
      gitlab (p.finalize w).2 = some (Function.update hooks id none) := by
  unfold finalize
  cases p.source.statusOrBlank.webhookId with
  | none => exact .inl up
  | some id =>
    have deleted := deleteHook_served serves same up id
    rcases run : p.deleteHook id w with ⟨answer, w₁⟩
    rw [run] at deleted
    dsimp only
    rw [Act.bind_apply, run]
    cases answer with
    | error e => exact deleted.imp_right fun left => ⟨id, rfl, left⟩
    | ok fate =>
      have told : gitlab (p.report id fate w₁).2 = gitlab w₁ := gitlab_report serves id fate
      exact deleted.imp told.trans fun left => ⟨id, rfl, told.trans left⟩

/-- A source that was taken down records no hook. -/
theorem webhookId_finalize {st : Source.Status} (h : (p.finalize w).1 = .ok st) :
    st.webhookId = none := by
  unfold finalize at h
  cases known : p.source.statusOrBlank.webhookId with
  | none =>
    rw [known] at h
    rw [← Except.ok.inj h]
    exact known
  | some id =>
    rw [known] at h
    dsimp only at h
    rw [Act.bind_apply] at h
    rcases run : p.deleteHook id w with ⟨answer, w₁⟩
    rw [run] at h
    cases answer with
    | error e => cases h
    | ok fate =>
      rw [← Except.ok.inj h]
      rfl

end Pass

end HookRelay

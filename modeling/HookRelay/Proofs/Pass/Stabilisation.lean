import HookRelay.Proofs.Credential.Available
import HookRelay.Proofs.Pass.Readiness
import HookRelay.Proofs.Pass.Served

/-!
# One pass is enough

Whatever stands in the status of a source, and whatever hooks there are: a single pass in which
all that the source depends on is there brings it to what it asks for. The status says so, the
hook has exactly the wanted fields, and no other hook is touched.

## Main statements

* `converge_stabilises` : where such a pass ends
-/

namespace HookRelay.Pass

open Credential (Available)
open Hook (Held Synced)

variable {W : Type} {p : Pass W} {σ : Scope} {gitlab : W → Option Held} {hooks : Held}
  {w w₁ w₂ : W} {uri address access secret : String} {r : Receiver}

theorem check_of_valid {s : Source} (valid : s.spec.validate = .ok ())
    (inScope : s.spec.scope = .ok σ) : check s = .ok () := by
  rw [check, valid, inScope]
  rfl

/-- The tokens of a pass that gets to its adapter are read if they are available. -/
theorem hookReached_of_available
    (steady : p.team.Within (Drift.fixing (p.team.secrets.answers p.namespace_)))
    (reached : p.AddressReached w uri r address w₂)
    (token : Available (p.team.secrets.answers p.namespace_ w)
      (some p.source.spec.accessToken) access)
    (secretToken : Available (p.team.secrets.answers p.namespace_ w)
      p.source.spec.secretToken secret) :
    ∃ w₃, p.HookReached w uri r address access secret w₃ := by
  -- the tokens are read last, and what came before left the secrets alone
  have unchanged : p.team.secrets.answers p.namespace_ w₂ = p.team.secrets.answers p.namespace_ w :=
    reached.adapter.moved steady
  obtain ⟨cache, w₃, tokens⟩ := Credential.resolveAll_available (steady.secrets p.namespace_)
    unchanged (Credential.Cache.agrees_nil _) (.cons token (.cons secretToken .nil))
  exact ⟨w₃, w₂, cache, reached, tokens⟩

/-- **One pass is enough**: from every status and every store of hooks, a pass over a valid source
with a sink, an adapter that is ready and has an address, tokens that are texts and a GitLab that is
up ends in order, and leaves the hook as it should be and all others as they were. -/
theorem converge_stabilises (serves : p.team.ServesHooks σ gitlab) (up : gitlab w = some hooks)
    (steady : p.team.Within (Drift.fixing (p.team.secrets.answers p.namespace_)))
    (valid : p.source.spec.validate = .ok ()) (inScope : p.source.spec.scope = .ok σ)
    (resolved : p.team.sinks.resolve p.namespace_ p.source.spec.sink w = (.ok uri, w₁))
    (adapter : p.Obtains uri w₁ r w₂) (ready : r.ready = true)
    (addressed : r.address = some address)
    (token : Available (p.team.secrets.answers p.namespace_ w)
      (some p.source.spec.accessToken) access)
    (secretToken : Available (p.team.secrets.answers p.namespace_ w)
      p.source.spec.secretToken secret) :
    (p.converge w).1.result = .ok .resync ∧
    (p.converge w).1.status.isReady = true ∧
    (p.converge w).1.status.sinkUri = some uri ∧
    (p.converge w).1.status.observedGeneration = p.source.metadata.generation ∧
    (p.converge w).1.status.attributes =
      (Event.eventTypes p.source.spec.eventTypes).map (⟨·, p.source.spec.eventSource⟩) ∧
    ∃ id, (p.converge w).1.status.webhookId = some id ∧
      gitlab (p.converge w).2 = some (Function.update hooks id (some
        ⟨address, secret, p.source.spec.sslVerify, .ofSettings p.source.spec.eventTypes⟩)) ∧
      (∀ recorded, p.source.statusOrBlank.webhookId = some recorded →
        (hooks recorded).isSome → id = recorded) ∧
      ((∀ recorded, p.source.statusOrBlank.webhookId = some recorded → hooks recorded = none) →
        hooks id = none) := by
  have sink : p.SinkReached w uri w₁ := ⟨check_of_valid valid inScope, resolved⟩
  have reached : p.AddressReached w uri r address w₂ := ⟨⟨w₁, sink, adapter⟩, ready, addressed⟩
  obtain ⟨w₃, tokens⟩ := hookReached_of_available steady reached token secretToken
  have up₃ : gitlab w₃ = some hooks := Eq.trans (tokens.moved serves.others) up
  obtain ⟨outcome, w₄, run, synced, left⟩ := syncHook_serves serves up₃ access
    (p.hookOptions address secret) p.source.statusOrBlank.webhookId
  have ends : p.Ends (p.complete p.source.statusOrBlank) w _ _ := .hookSynced tokens inScope run
  have inOrder : (p.converge w).1.status.isReady = true := by
    rw [isReady_converge, ends.run_eq]
    exact isReady_hookSynced
  rw [converge_apply, ends.run_eq] at inOrder ⊢
  refine ⟨rfl, inOrder, rfl, rfl, rfl, outcome.id, rfl, ?_, ?_, ?_⟩
  · exact (gitlab_proclaim serves σ outcome).trans left
  · -- a recorded hook that is there is neither replaced nor joined by another
    intro recorded known here
    rw [known] at synced
    cases synced with
    | updated _ => rfl
    | recreated gone fresh =>
      rw [gone] at here
      cases here
  · intro gone
    generalize known : p.source.statusOrBlank.webhookId = recorded at synced gone
    cases synced with
    | updated here =>
      rw [gone _ rfl] at here
      cases here
    | created fresh => exact fresh
    | recreated _ fresh => exact fresh

/-! ## In memory -/

theorem servesHooks_inMemory (σ : Scope) :
    InMemory.collaborators.ServesHooks σ InMemory.gitlab where
  others := InMemory.within_hooks.mono fun {w w'} same => by
    have same : w'.hooks = w.hooks := same
    show InMemory.gitlab w' = InMemory.gitlab w
    rw [InMemory.gitlab, same, InMemory.gitlab]
  notices _ _ := rfl
  provider := Hook.Store.provider_serves InMemory.lawful_hooksPart σ

/-- Nothing that is done in memory changes what secrets hold. -/
theorem steady_inMemory (namespace_ : String) : InMemory.collaborators.Within
    (Drift.fixing (InMemory.collaborators.secrets.answers namespace_)) where
  sinks _ _ _ := rfl
  lists _ _ := rfl
  creates _ _ := rfl
  secrets _ _ _ := rfl
  notices _ _ _ := rfl
  counters _ _ := rfl

/-- The source with a status that somebody has spoilt: it is ready and not, carries conditions of
others, and records a hook that does not exist. -/
def spoilt : Source :=
  { InMemory.source with
    status := some ⟨none, some "http://elsewhere", some 77,
      [⟨"Mine", "Maybe", none, none, none⟩, ⟨"Ready", "True", none, none, none⟩,
        ⟨"Ready", "False", none, none, none⟩, ⟨"Deployed", "False", none, none, none⟩], []⟩ }

/-- The world of the source with a hook of somebody else. -/
def crowded : InMemory :=
  { InMemory.ready with
    hooks := { Hook.Store.empty with
      hooks := [(5, ⟨"http://other", "", true, .ofSettings []⟩)]
      lastId := 5 } }

theorem up_crowded : crowded.hooks.Up where
  healthy := rfl
  opens := rfl
  free id ahead := by
    have ahead : 5 < id := ahead
    have other : (5 : Int) ≠ id := by omega
    simp [crowded, Hook.Store.find?, other]

theorem stabilises_spoilt :
    ((InMemory.passOver spoilt).converge crowded).1.result = .ok .resync ∧
    ((InMemory.passOver spoilt).converge crowded).1.status.isReady = true ∧
    ((InMemory.passOver spoilt).converge crowded).1.status.sinkUri =
      some Sink.Memory.commonAddress ∧
    ((InMemory.passOver spoilt).converge crowded).1.status.observedGeneration = some 1 ∧
    ((InMemory.passOver spoilt).converge crowded).1.status.attributes =
      (Event.eventTypes ["push_events"]).map (⟨·, spoilt.spec.eventSource⟩) ∧
    ∃ id, ((InMemory.passOver spoilt).converge crowded).1.status.webhookId = some id ∧
      ((InMemory.passOver spoilt).converge crowded).2.gitlab =
        some (Function.update crowded.hooks.held id (some
          ⟨"http://repo-1", "", true, .ofSettings ["push_events"]⟩)) ∧
      (∀ recorded, some 77 = some recorded → (crowded.hooks.held recorded).isSome →
        id = recorded) ∧
      ((∀ recorded, some 77 = some recorded → crowded.hooks.held recorded = none) →
        crowded.hooks.held id = none) :=
  converge_stabilises (servesHooks_inMemory InMemory.project) up_crowded.served
    (steady_inMemory _) rfl rfl rfl (.found rfl) rfl rfl (.held rfl rfl rfl) .absent

end HookRelay.Pass

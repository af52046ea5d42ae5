import HookRelay.Proofs.Pass.Ends
import HookRelay.Proofs.World.Drift

/-!
# What a pass does about the hook

Of the exits of a pass, one leaves the hook as it should be, two fail to make it so, and all
others end the pass before GitLab is asked. Where all other collaborators keep to a drift, what a
pass does to the world is that drift, with one synchronisation of the hook in between at most.

## Main definitions

* `Collaborators.Within` : all collaborators but GitLab keep to a drift
* `Pass.OnHook` : what a pass does about the hook

## Main statements

* `Pass.converge_onHook` : every pass does one of these
-/

namespace HookRelay

variable {W : Type}

/-- The reason of the notice that a hook was created, `WebhookCreated`. -/
def Notice.hookCreated : String := "WebhookCreated"

/-- All collaborators but GitLab keep to a drift. The notice of a new hook goes with the hook. -/
structure Collaborators.Within (d : Drift W) (team : Collaborators W) : Prop where
  sinks : ∀ namespace_ destination, (team.sinks.resolve namespace_ destination).Within d
  lists : ∀ namespace_, (team.receivers.list namespace_).Within d
  creates : ∀ plan, (team.receivers.create plan).Within d
  secrets : ∀ namespace_ name, (team.secrets.get namespace_ name).Within d
  notices : ∀ n : Notice, n.reason ≠ Notice.hookCreated → (team.notices.publish n).Within d
  counters : ∀ c, (team.count c).Within d

theorem Collaborators.Within.mono {d d' : Drift W} (wider : ∀ {w w'}, d.rel w w' → d'.rel w w')
    {team : Collaborators W} (h : team.Within d) : team.Within d' where
  sinks _ _ := (h.sinks _ _).mono wider
  lists _ := (h.lists _).mono wider
  creates _ := (h.creates _).mono wider
  secrets _ _ := (h.secrets _ _).mono wider
  notices n other := (h.notices n other).mono wider
  counters _ := (h.counters _).mono wider

namespace Pass

variable {d : Drift W} {p : Pass W} {st : Source.Status} {w : W}

/-! ## The way to the hook -/

theorem within_warn (far : p.team.Within d) {reason : String} (other : reason ≠ Notice.hookCreated)
    (note : String) : (p.warn reason note).Within d :=
  far.notices _ other

/-- A source with an identifier owns the first adapter in the list that names it. -/
theorem ownedReceiver_eq {uid : String} (identified : p.source.metadata.uid = some uid) (w : W) :
    (p.ownedReceiver w).1 =
      (p.team.receivers.list p.namespace_ w).1.map (List.find? (·.isControlledBy uid)) := by
  rw [ownedReceiver, identified]
  dsimp only
  rw [Act.bind_apply]
  cases (p.team.receivers.list p.namespace_ w).1 <;> rfl

theorem ownedReceiver_ok {uid : String} {found : Option Receiver} {w' : W}
    (identified : p.source.metadata.uid = some uid) (h : p.ownedReceiver w = (.ok found, w')) :
    ∃ receivers, p.team.receivers.list p.namespace_ w = (.ok receivers, w') ∧
      receivers.find? (·.isControlledBy uid) = found := by
  rw [ownedReceiver, identified] at h
  dsimp only at h
  rw [Act.bind_apply] at h
  rcases listed : p.team.receivers.list p.namespace_ w with ⟨answer, w₁⟩
  rw [listed] at h
  cases answer with
  | error e => cases h
  | ok receivers =>
    cases h
    exact ⟨receivers, rfl, rfl⟩

theorem within_ownedReceiver (lists : ∀ namespace_, (p.team.receivers.list namespace_).Within d) :
    p.ownedReceiver.Within d := by
  unfold ownedReceiver
  cases p.source.metadata.uid with
  | none => exact Act.within_pure _
  | some uid =>
    refine (lists _).bind fun found => ?_
    cases found with
    | error e => exact Act.within_pure _
    | ok receivers => exact Act.within_pure _

/-- A new adapter is the one that the platform created by the plan of the source. -/
theorem createReceiver_ok {uri : String} {r : Receiver} {w' : W}
    (made : p.createReceiver uri w = (.ok r, w')) :
    ∃ plan w₁, Receiver.plan p.settings p.source uri = .ok plan ∧
      p.team.receivers.create plan w = (.ok r, w₁) ∧
      w' = (p.announce "ReceiveAdapterCreated" s!"Created receive adapter {r.name}"
        (p.team.count .adapterCreated w₁).2).2 := by
  rw [createReceiver] at made
  cases planned : Receiver.plan p.settings p.source uri with
  | error e =>
    rw [planned] at made
    cases made
  | ok plan =>
    rw [planned] at made
    dsimp only at made
    rw [Act.bind_apply] at made
    rcases created : p.team.receivers.create plan w with ⟨answer, w₁⟩
    rw [created] at made
    cases answer with
    | error e => cases made
    | ok r =>
      cases made
      exact ⟨plan, w₁, rfl, created, rfl⟩

theorem within_createReceiver (far : p.team.Within d) (uri : String) :
    (p.createReceiver uri).Within d := by
  unfold createReceiver
  cases Receiver.plan p.settings p.source uri with
  | error e => exact Act.within_pure _
  | ok plan =>
    refine (far.creates plan).bind fun made => ?_
    cases made with
    | error e => exact Act.within_pure _
    | ok r =>
      have announced : (p.announce "ReceiveAdapterCreated"
          s!"Created receive adapter {r.name}").Within d :=
        far.notices _ (show "ReceiveAdapterCreated" ≠ Notice.hookCreated by decide)
      exact (far.counters _).bind fun _ => announced.bind fun _ => Act.within_pure _

theorem SinkReached.moved {uri : String} {w₁ : W} (far : p.team.Within d)
    (h : p.SinkReached w uri w₁) : d.rel w w₁ :=
  (far.sinks _ _).moved h.resolved

theorem AdapterReached.moved {uri : String} {r : Receiver} {w₂ : W} (far : p.team.Within d)
    (h : p.AdapterReached w uri r w₂) : d.rel w w₂ := by
  obtain ⟨w₁, sink, obtained⟩ := h
  refine d.trans (sink.moved far) ?_
  cases obtained with
  | found owned => exact (within_ownedReceiver far.lists).moved owned
  | created unowned made =>
    exact d.trans ((within_ownedReceiver far.lists).moved unowned)
      ((within_createReceiver far uri).moved made)

theorem HookReached.moved {uri address access secret : String} {r : Receiver} {w₃ : W}
    (far : p.team.Within d) (h : p.HookReached w uri r address access secret w₃) :
    d.rel w w₃ := by
  obtain ⟨w₂, cache, adapter, tokens⟩ := h
  have read := Credential.within_resolveAll (far.secrets p.namespace_) (tokenKeys p.source) []
  exact d.trans (adapter.adapter.moved far) (read.moved tokens)

theorem tokenFault_ne_hookCreated {e : Credential.Failure} {reason : String}
    (fault : tokenFault? e = some reason) : reason ≠ Notice.hookCreated := by
  cases e with
  | secretNotFound name => cases fault; decide
  | keyNotFound name key => cases fault; decide
  | notText name key => cases fault; decide
  | store name cause => cases fault

/-! ## The hook -/

variable (p) in
/-- **What a pass does about the hook**, where all that it does otherwise is a drift. -/
inductive OnHook (d : Drift W) (st : Source.Status) (w : W) : Outcome → W → Prop where
  /-- GitLab is not asked. -/
  | untouched {o : Outcome} {w' : W} (moved : d.rel w w')
      (kept : o.status.webhookId = st.webhookId) : OnHook d st w o w'
  /-- The hook is made as it should be, and its number is recorded. -/
  | synced {o : Outcome} {w₃ w₄ : W} {scope : Scope} {access : String} {options : Hook.Options}
      {outcome : Hook.Outcome} (moved : d.rel w w₃) (inScope : p.source.spec.scope = .ok scope)
      (synced : p.syncHook scope access options st.webhookId w₃ = (.ok outcome, w₄))
      (recorded : o.status.webhookId = some outcome.id) :
      OnHook d st w o (p.proclaim scope outcome w₄).2
  /-- The hook cannot be made as it should be. -/
  | failed {o : Outcome} {w₃ w₄ w' : W} {scope : Scope} {access : String}
      {options : Hook.Options} {e : Hook.Error} (moved : d.rel w w₃)
      (inScope : p.source.spec.scope = .ok scope)
      (failed : p.syncHook scope access options st.webhookId w₃ = (.error e, w₄))
      (left : d.rel w₄ w') (kept : o.status.webhookId = st.webhookId) : OnHook d st w o w'

theorem Ends.onHook (far : p.team.Within d) {o : Outcome} {w' : W} (h : p.Ends st w o w') :
    p.OnHook d st w o w' := by
  cases h with
  | invalid broken => exact .untouched (d.refl w) rfl
  | sinkUnanswered valid resolved transient => exact .untouched ((far.sinks _ _).moved resolved) rfl
  | sinkRefused valid resolved lasting => exact .untouched ((far.sinks _ _).moved resolved) rfl
  | adaptersUnlisted sink unlisted =>
    have listed := d.trans (sink.moved far) ((within_ownedReceiver far.lists).moved unlisted)
    exact .untouched listed rfl
  | adapterUncreated sink unowned failed =>
    have listed := d.trans (sink.moved far) ((within_ownedReceiver far.lists).moved unowned)
    exact .untouched (d.trans listed ((within_createReceiver far _).moved failed)) rfl
  | adapterUnready adapter unready => exact .untouched (adapter.moved far) rfl
  | adapterUnaddressed adapter ready unaddressed => exact .untouched (adapter.moved far) rfl
  | tokensAwaited adapter unavailable fault =>
    have read := Credential.within_resolveAll (far.secrets p.namespace_) (tokenKeys p.source) []
    have reached := d.trans (adapter.adapter.moved far) (read.moved unavailable)
    exact .untouched (d.trans reached (within_warn far (tokenFault_ne_hookCreated fault) _ _)) rfl
  | tokensUnread adapter unavailable unread =>
    have read := Credential.within_resolveAll (far.secrets p.namespace_) (tokenKeys p.source) []
    exact .untouched (d.trans (adapter.adapter.moved far) (read.moved unavailable)) rfl
  | hookSynced tokens inScope synced => exact .synced (tokens.moved far) inScope synced rfl
  | hookDenied tokens inScope failed denied =>
    have other : "AccessDenied" ≠ Notice.hookCreated := by decide
    exact .failed (tokens.moved far) inScope failed (within_warn far other _ _) rfl
  | hookFailed tokens inScope failed undenied =>
    exact .failed (tokens.moved far) inScope failed (d.refl _) rfl

/-- Of the statuses, only the recorded hook matters here. -/
theorem OnHook.congr {st' : Source.Status} {o o' : Outcome} {w' : W} (h : p.OnHook d st w o w')
    (start : st'.webhookId = st.webhookId) (final : o'.status.webhookId = o.status.webhookId) :
    p.OnHook d st' w o' w' := by
  cases h with
  | untouched moved kept => exact .untouched moved (final.trans (kept.trans start.symm))
  | synced moved inScope synced recorded =>
    rw [← start] at synced
    exact .synced moved inScope synced (final.trans recorded)
  | failed moved inScope failed left kept =>
    rw [← start] at failed
    exact .failed moved inScope failed left (final.trans (kept.trans start.symm))

/-- **A pass drifts, with one synchronisation of the hook in between at most.** The hook it
starts from is the recorded one, and what it records follows from what was done. -/
theorem converge_onHook (far : p.team.Within d) (w : W) :
    p.OnHook d p.source.statusOrBlank w (p.converge w).1 (p.converge w).2 :=
  -- neither completing the conditions nor noting the generation touches the recorded number
  ((run_ends p (p.complete p.source.statusOrBlank) w).onHook far).congr rfl rfl

end Pass

end HookRelay

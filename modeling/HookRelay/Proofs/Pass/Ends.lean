import HookRelay.Pass.Converge
import Mathlib.Data.List.Basic

/-!
# How a pass ends

A pass is a chain of stages, each of which calls the next one last. Read from the outside it is a
list of exits: for each, what the collaborators answered on the way there, and the status and the
result with which the pass ends. `Ends` is that list. A statement about passes is proved by going
through it, and never by opening the stages again.

## Main definitions

* `begun`, `withSink`, `withAdapter` : the statuses behind the first stages
* `SinkReached`, `AdapterReached`, `AddressReached`, `HookReached` : how far a pass got, and in
  which world
* `Ends` : the exits of a pass

## Main statements

* `run_ends` : a pass ends by one of the exits
* `Ends.run_eq` : the answers on the way to an exit leave a pass no other end
-/

namespace HookRelay

/-- Every reference yields one token. -/
theorem Credential.length_of_resolveAll {W : Type} {secrets : Credential.Secrets W}
    {namespace_ : String} {refs : List (Option SecretKey)} {cache cache' : Credential.Cache}
    {tokens : List String} {w w' : W}
    (h : Credential.resolveAll secrets namespace_ refs cache w = ((.ok tokens, cache'), w')) :
    tokens.length = refs.length := by
  induction refs generalizing cache cache' tokens w w' with
  | nil =>
    cases h
    rfl
  | cons ref refs ih =>
    cases ref with
    | none =>
      rw [Credential.resolveAll, Act.bind_apply] at h
      rcases hr : Credential.resolveAll secrets namespace_ refs cache w with ⟨⟨r, c⟩, w₁⟩
      rw [hr] at h
      cases r with
      | error e => cases h
      | ok rest =>
        cases h
        simp [ih hr]
    | some ref =>
      rw [Credential.resolveAll, Act.bind_apply] at h
      rcases hf : Credential.resolve secrets namespace_ ref cache w with ⟨⟨r, c⟩, w₁⟩
      rw [hf] at h
      cases r with
      | error e => cases h
      | ok token =>
        dsimp only at h
        rw [Act.bind_apply] at h
        rcases hr : Credential.resolveAll secrets namespace_ refs c w₁ with ⟨⟨r, c'⟩, w₂⟩
        rw [hr] at h
        cases r with
        | error e => cases h
        | ok rest =>
          cases h
          simp [ih hr]

namespace Pass

variable {W : Type} (p : Pass W)

/-! ## The statuses on the way -/

/-- The status of a valid source, with its `ceAttributes`. -/
def begun (st : Source.Status) : Source.Status := { st with attributes := attributes p.source }

/-- The status of a source whose sink has an address: it is noted as `sinkUri`, and `SinkProvided`
holds. -/
def withSink (uri : String) (st : Source.Status) : Source.Status :=
  p.holds Source.sinkProvided { p.begun st with sinkUri := some uri }

/-- The status of a source whose adapter is ready as well: `Deployed` holds. -/
def withAdapter (uri : String) (st : Source.Status) : Source.Status :=
  p.holds Source.deployed (p.withSink uri st)

@[simp] theorem webhookId_withAdapter (uri : String) (st : Source.Status) :
    (p.withAdapter uri st).webhookId = st.webhookId := rfl

/-! ## How far a pass gets -/

/-- The source is valid, and its sink has the address `uri`. -/
structure SinkReached (w : W) (uri : String) (w₁ : W) : Prop where
  valid : check p.source = .ok ()
  resolved : p.team.sinks.resolve p.namespace_ p.source.spec.sink w = (.ok uri, w₁)

/-- The source owns the adapter `r`, or owned none and got it created. -/
inductive Obtains (uri : String) (w : W) (r : Receiver) (w' : W) : Prop where
  | found (owned : p.ownedReceiver w = (.ok (some r), w'))
  | created {w₁ : W} (unowned : p.ownedReceiver w = (.ok none, w₁))
      (made : p.createReceiver uri w₁ = (.ok r, w'))

/-- The source has the adapter `r`. -/
def AdapterReached (w : W) (uri : String) (r : Receiver) (w₂ : W) : Prop :=
  ∃ w₁, p.SinkReached w uri w₁ ∧ p.Obtains uri w₁ r w₂

/-- The adapter of the source takes deliveries at `address`. -/
structure AddressReached (w : W) (uri : String) (r : Receiver) (address : String) (w₂ : W) :
    Prop where
  adapter : p.AdapterReached w uri r w₂
  ready : r.ready = true
  addressed : r.address = some address

/-- The tokens of the source were read. -/
def HookReached (w : W) (uri : String) (r : Receiver) (address access secret : String) (w₃ : W) :
    Prop :=
  ∃ w₂ cache, p.AddressReached w uri r address w₂ ∧
    Credential.resolveAll p.team.secrets p.namespace_ (tokenKeys p.source) [] w₂ =
      ((.ok [access, secret], cache), w₃)

/-! ## The exits -/

/-- Announces a hook that is new. -/
def proclaim (scope : Scope) (outcome : Hook.Outcome) : Act W Unit :=
  if outcome.isNew then
    p.announce "WebhookCreated" s!"Created webhook {outcome.id} on {scope.path}"
  else pure ()

/-- The reason for tokens that somebody has to put right, `SecretNotFound` or `InvalidSecret`; there
is none for a failure to read. -/
def tokenFault? : Credential.Failure → Option String
  | .secretNotFound _ | .keyNotFound _ _ => some "SecretNotFound"
  | .notText _ _ => some "InvalidSecret"
  | .store _ _ => none

/-- **The exits of a pass** that begins with the status `st` in the world `w`: the outcome, and
the world that is left behind. -/
inductive Ends (st : Source.Status) (w : W) : Outcome → W → Prop where
  /-- The specification breaks a rule. -/
  | invalid {e : Source.Invalidity} (broken : check p.source = .error e) :
      Ends st w ⟨p.fails Source.webhookConfigured "InvalidSpec" e.message st, .ok .awaitChange⟩ w
  /-- Nobody could say where the sink is. -/
  | sinkUnanswered {e : Sink.Error} {w₁ : W} (valid : check p.source = .ok ())
      (resolved : p.team.sinks.resolve p.namespace_ p.source.spec.sink w = (.error e, w₁))
      (transient : e.isTransient = true) :
      Ends st w ⟨p.begun st, .error (.sink e)⟩ w₁
  /-- The sink has no address. -/
  | sinkRefused {e : Sink.Error} {w₁ : W} (valid : check p.source = .ok ())
      (resolved : p.team.sinks.resolve p.namespace_ p.source.spec.sink w = (.error e, w₁))
      (lasting : e.isTransient = false) :
      Ends st w ⟨p.fails Source.sinkProvided "SinkNotFound" e.message
        { p.begun st with sinkUri := none }, .ok .resync⟩ w₁
  /-- The adapters could not be listed. -/
  | adaptersUnlisted {uri : String} {w₁ w₂ : W} {e : Receiver.Error}
      (sink : p.SinkReached w uri w₁) (unlisted : p.ownedReceiver w₁ = (.error e, w₂)) :
      Ends st w ⟨p.withSink uri st, .error (.receiver e)⟩ w₂
  /-- The adapter could not be created. -/
  | adapterUncreated {uri : String} {w₁ w₂ w₃ : W} {e : Receiver.Error}
      (sink : p.SinkReached w uri w₁) (unowned : p.ownedReceiver w₁ = (.ok none, w₂))
      (failed : p.createReceiver uri w₂ = (.error e, w₃)) :
      Ends st w ⟨p.fails Source.deployed "ReceiveAdapterCreateFailed" e.detail
        (p.withSink uri st), .error (.receiver e)⟩ w₃
  /-- The adapter is not ready. -/
  | adapterUnready {uri : String} {r : Receiver} {w₂ : W} (adapter : p.AdapterReached w uri r w₂)
      (unready : r.ready = false) :
      Ends st w ⟨p.fails Source.deployed "ReceiveAdapterNotReady"
        s!"receive adapter {r.name} is not ready" (p.withSink uri st), .ok .resync⟩ w₂
  /-- The adapter has no address. -/
  | adapterUnaddressed {uri : String} {r : Receiver} {w₂ : W}
      (adapter : p.AdapterReached w uri r w₂) (ready : r.ready = true)
      (unaddressed : r.address = none) :
      Ends st w ⟨p.unclear Source.webhookConfigured "ReceiveAdapterNoAddress"
        s!"receive adapter {r.name} has no address yet" (p.withAdapter uri st), .ok .resync⟩ w₂
  /-- A token is missing or is no text. -/
  | tokensAwaited {uri address reason : String} {r : Receiver} {w₂ w₃ : W}
      {e : Credential.Failure} {cache : Credential.Cache}
      (adapter : p.AddressReached w uri r address w₂)
      (unavailable : Credential.resolveAll p.team.secrets p.namespace_ (tokenKeys p.source) [] w₂ =
        ((.error e, cache), w₃))
      (fault : tokenFault? e = some reason) :
      Ends st w ⟨p.fails Source.webhookConfigured reason e.message (p.withAdapter uri st),
        .ok (.after p.settings.credentialsRetry)⟩ (p.warn reason e.message w₃).2
  /-- A secret could not be read. -/
  | tokensUnread {uri address : String} {r : Receiver} {w₂ w₃ : W} {e : Credential.Failure}
      {cache : Credential.Cache} (adapter : p.AddressReached w uri r address w₂)
      (unavailable : Credential.resolveAll p.team.secrets p.namespace_ (tokenKeys p.source) [] w₂ =
        ((.error e, cache), w₃))
      (unread : tokenFault? e = none) :
      Ends st w ⟨p.fails Source.webhookConfigured "SecretReadFailed" e.message
        (p.withAdapter uri st), .error (.credentials e)⟩ w₃
  /-- The hook is as it should be. -/
  | hookSynced {uri address access secret : String} {r : Receiver} {w₃ w₄ : W} {scope : Scope}
      {outcome : Hook.Outcome} (tokens : p.HookReached w uri r address access secret w₃)
      (inScope : p.source.spec.scope = .ok scope)
      (synced : p.syncHook scope access (p.hookOptions address secret) st.webhookId w₃ =
        (.ok outcome, w₄)) :
      Ends st w ⟨p.holds Source.webhookConfigured
        { p.withAdapter uri st with webhookId := some outcome.id }, .ok .resync⟩
        (p.proclaim scope outcome w₄).2
  /-- Access to the hook was denied. -/
  | hookDenied {uri address access secret : String} {r : Receiver} {w₃ w₄ : W} {scope : Scope}
      {e : Hook.Error} (tokens : p.HookReached w uri r address access secret w₃)
      (inScope : p.source.spec.scope = .ok scope)
      (failed : p.syncHook scope access (p.hookOptions address secret) st.webhookId w₃ =
        (.error e, w₄))
      (denied : e.isDenied = true) :
      Ends st w ⟨p.fails Source.webhookConfigured "AccessDenied" e.message (p.withAdapter uri st),
        .ok .resync⟩ (p.warn "AccessDenied" e.message w₄).2
  /-- The hook could not be read or written. -/
  | hookFailed {uri address access secret : String} {r : Receiver} {w₃ w₄ : W} {scope : Scope}
      {e : Hook.Error} (tokens : p.HookReached w uri r address access secret w₃)
      (inScope : p.source.spec.scope = .ok scope)
      (failed : p.syncHook scope access (p.hookOptions address secret) st.webhookId w₃ =
        (.error e, w₄))
      (undenied : e.isDenied = false) :
      Ends st w ⟨p.fails Source.webhookConfigured "WebhookSyncFailed" e.message
        (p.withAdapter uri st), .error (.hooks e)⟩ w₄

/-! ## A pass ends by one of the exits -/

variable {p} {st : Source.Status} {w : W}

/-- A source that can be worked with has a scope. -/
theorem scope_of_check {s : Source} (h : check s = .ok ()) : ∃ scope, s.spec.scope = .ok scope := by
  cases hs : s.spec.scope with
  | ok scope => exact ⟨scope, rfl⟩
  | error fault =>
    rw [check, hs] at h
    cases rules : s.spec.validate with
    | ok u =>
      rw [rules] at h
      cases h
    | error e =>
      rw [rules] at h
      cases h

theorem configureHook_ends {uri address access secret : String} {r : Receiver} {w₃ : W}
    (h : p.HookReached w uri r address access secret w₃) :
    p.Ends st w (p.configureHook address access secret (p.withAdapter uri st) w₃).1
      (p.configureHook address access secret (p.withAdapter uri st) w₃).2 := by
  -- a source that got this far was found valid, so that it has a scope
  obtain ⟨_, _, ⟨⟨_, sink, _⟩, _, _⟩, _⟩ := id h
  obtain ⟨scope, inScope⟩ := scope_of_check sink.valid
  simp only [configureHook, inScope, Act.bind_apply, webhookId_withAdapter]
  rcases synced : p.syncHook scope access (p.hookOptions address secret) st.webhookId w₃ with
    ⟨result, w₄⟩
  cases result with
  | ok outcome =>
    have ends : p.Ends st w _ _ := Ends.hookSynced h inScope synced
    cases new : outcome.isNew <;> simpa [judgeHook, proclaim, new] using ends
  | error e =>
    cases denied : e.isDenied with
    | true =>
      have ends : p.Ends st w _ _ := Ends.hookDenied h inScope synced denied
      simpa [judgeHook, denied] using ends
    | false =>
      have ends : p.Ends st w _ _ := Ends.hookFailed h inScope synced denied
      simpa [judgeHook, denied] using ends

theorem useTokens_ends {uri address : String} {r : Receiver} {w₂ : W}
    (h : p.AddressReached w uri r address w₂) :
    p.Ends st w (p.useTokens address (p.withAdapter uri st) w₂).1
      (p.useTokens address (p.withAdapter uri st) w₂).2 := by
  simp only [useTokens, Act.bind_apply]
  rcases tokens : Credential.resolveAll p.team.secrets p.namespace_ (tokenKeys p.source) [] w₂ with
    ⟨⟨result, cache⟩, w₃⟩
  cases result with
  | ok tokenList =>
    -- two references were given, so two tokens come back
    obtain ⟨access, secret, rfl⟩ :=
      List.length_eq_two.1 (Credential.length_of_resolveAll tokens)
    exact configureHook_ends ⟨w₂, cache, h, tokens⟩
  | error e =>
    cases e with
    | secretNotFound name => exact Ends.tokensAwaited h tokens rfl
    | keyNotFound name key => exact Ends.tokensAwaited h tokens rfl
    | notText name key => exact Ends.tokensAwaited h tokens rfl
    | store name cause => exact Ends.tokensUnread h tokens rfl

theorem useReceiver_ends {uri : String} {r : Receiver} {w₂ : W}
    (h : p.AdapterReached w uri r w₂) :
    p.Ends st w (p.useReceiver (p.withSink uri st) r w₂).1
      (p.useReceiver (p.withSink uri st) r w₂).2 := by
  rw [useReceiver]
  cases ready : r.ready with
  | false => exact Ends.adapterUnready h ready
  | true =>
    cases addressed : r.address with
    | none => exact Ends.adapterUnaddressed h ready addressed
    | some address => exact useTokens_ends ⟨h, ready, addressed⟩

theorem deploy_ends {uri : String} {w₁ : W} (h : p.SinkReached w uri w₁) :
    p.Ends st w (p.deploy uri (p.withSink uri st) w₁).1
      (p.deploy uri (p.withSink uri st) w₁).2 := by
  simp only [deploy, Act.bind_apply]
  rcases owned : p.ownedReceiver w₁ with ⟨result, w₂⟩
  cases result with
  | error e => exact Ends.adaptersUnlisted h owned
  | ok found =>
    cases found with
    | some r => exact useReceiver_ends ⟨w₁, h, .found owned⟩
    | none =>
      dsimp only
      rw [Act.bind_apply]
      rcases made : p.createReceiver uri w₂ with ⟨result, w₃⟩
      cases result with
      | error e => exact Ends.adapterUncreated h owned made
      | ok r => exact useReceiver_ends ⟨w₁, h, .created owned made⟩

theorem provideSink_ends (valid : check p.source = .ok ()) :
    p.Ends st w (p.provideSink (p.begun st) w).1 (p.provideSink (p.begun st) w).2 := by
  simp only [provideSink, Act.bind_apply]
  rcases resolved : p.team.sinks.resolve p.namespace_ p.source.spec.sink w with ⟨result, w₁⟩
  cases result with
  | ok uri => exact deploy_ends ⟨valid, resolved⟩
  | error e =>
    cases transient : e.isTransient with
    | true =>
      have ends : p.Ends st w _ _ := Ends.sinkUnanswered valid resolved transient
      simpa [transient] using ends
    | false =>
      have ends : p.Ends st w _ _ := Ends.sinkRefused valid resolved transient
      simpa [transient] using ends

/-- **A pass ends by one of its exits.** -/
theorem run_ends (p : Pass W) (st : Source.Status) (w : W) :
    p.Ends st w (p.run st w).1 (p.run st w).2 := by
  rw [run]
  cases checked : check p.source with
  | error e => exact Ends.invalid checked
  | ok u => exact provideSink_ends checked

/-- The outcome of a whole pass is that of its stages, with the generation looked at. -/
theorem converge_apply (p : Pass W) (w : W) :
    p.converge w =
      ({ (p.run (p.complete p.source.statusOrBlank) w).1 with
        status := { (p.run (p.complete p.source.statusOrBlank) w).1.status with
          observedGeneration := p.source.metadata.generation } },
        (p.run (p.complete p.source.statusOrBlank) w).2) := rfl

/-! ## The answers on the way leave no other end -/

theorem AdapterReached.run_eq {uri : String} {r : Receiver} {w₂ : W}
    (h : p.AdapterReached w uri r w₂) :
    p.run st w = p.useReceiver (p.withSink uri st) r w₂ := by
  -- up to the adapter there is one way; how the adapter came about leads to the same status
  obtain ⟨w₁, ⟨valid, resolved⟩, obtained⟩ := h
  have reached : p.run st w = p.deploy uri (p.withSink uri st) w₁ := by
    simp [run, valid, provideSink, resolved, withSink, begun]
  rw [reached]
  cases obtained with
  | found owned => simp [deploy, owned]
  | created unowned made => simp [deploy, unowned, made]

theorem AddressReached.run_eq {uri address : String} {r : Receiver} {w₂ : W}
    (h : p.AddressReached w uri r address w₂) :
    p.run st w = p.useTokens address (p.withAdapter uri st) w₂ := by
  rw [h.adapter.run_eq]
  simp [useReceiver, h.ready, h.addressed, withAdapter]

theorem HookReached.run_eq {uri address access secret : String} {r : Receiver} {w₃ : W}
    (h : p.HookReached w uri r address access secret w₃) :
    p.run st w = p.configureHook address access secret (p.withAdapter uri st) w₃ := by
  obtain ⟨w₂, cache, adapter, tokens⟩ := h
  rw [adapter.run_eq]
  simp [useTokens, tokens]

/-- **A pass whose collaborators answered as an exit says ends by that exit.** -/
theorem Ends.run_eq {o : Outcome} {w' : W} (h : p.Ends st w o w') : p.run st w = (o, w') := by
  cases h with
  | invalid broken => simp [run, broken]
  | sinkUnanswered valid resolved transient =>
    simp [run, valid, provideSink, resolved, transient, begun]
  | sinkRefused valid resolved lasting =>
    simp [run, valid, provideSink, resolved, lasting, begun]
  | adaptersUnlisted sink unlisted =>
    simp [run, sink.valid, provideSink, sink.resolved, deploy, unlisted, withSink, begun]
  | adapterUncreated sink unowned failed =>
    simp [run, sink.valid, provideSink, sink.resolved, deploy, unowned, failed, withSink, begun]
  | adapterUnready adapter unready => simp [adapter.run_eq, useReceiver, unready]
  | adapterUnaddressed adapter ready unaddressed =>
    simp [adapter.run_eq, useReceiver, ready, unaddressed, withAdapter]
  | @tokensAwaited _ _ _ _ _ _ e _ adapter unavailable fault =>
    -- the kind of the failure decides between this exit and the next one
    rw [adapter.run_eq]
    cases e <;> simp_all [useTokens, judgeTokens, awaitTokens, tokenFault?]
  | @tokensUnread _ _ _ _ _ e _ adapter unavailable unread =>
    rw [adapter.run_eq]
    cases e <;> simp_all [useTokens, judgeTokens, tokenFault?]
  | @hookSynced _ _ _ _ _ _ _ _ outcome tokens inScope synced =>
    cases new : outcome.isNew <;>
      simp [tokens.run_eq, configureHook, inScope, synced, judgeHook, proclaim, new]
  | hookDenied tokens inScope failed denied =>
    simp [tokens.run_eq, configureHook, inScope, failed, judgeHook, denied]
  | hookFailed tokens inScope failed undenied =>
    simp [tokens.run_eq, configureHook, inScope, failed, judgeHook, undenied]

end Pass

end HookRelay

import HookRelay.Event.Category
import HookRelay.Hook.Sync
import HookRelay.Pass.Basic

/-!
# Bringing a source to what it asks for

A pass takes five stages, each of which needs what the one before it found: the specification is
valid (`check`), the sink has an address (`provideSink`), the source has a receive adapter
(`deploy`), the adapter is ready and has an address (`useReceiver`), the tokens are there
(`useTokens`). Then the hook is made as it should be (`configureHook`). A stage that does not get
through judges the conditions it knows about, leaves all others as they are, and ends the pass.
Every stage is a function of the status so far, and calls the next one last.

## Main definitions

* `Outcome` : the status a pass arrives at, and how it ended
* `Pass.converge` : a whole pass
-/

namespace HookRelay

/-- The status a pass arrives at, and how it ended: with a `Requeue` or an error. The status counts
in both cases. -/
structure Pass.Outcome where
  status : Source.Status
  result : Except Pass.Error Requeue

namespace Pass

variable {W : Type} (p : Pass W)

/-- The events that a source will emit, its `ceAttributes`. -/
def attributes (s : Source) : List EventAttributes :=
  (Event.eventTypes s.spec.eventTypes).map fun type => ⟨type, s.spec.eventSource⟩

/-! ## The hook -/

/-- Judges how making the hook ended, in `WebhookConfigured`: denied access is no error, and waits
for the resync. -/
def judgeHook (scope : Scope) (st : Source.Status) :
    Except Hook.Error Hook.Outcome → Act W Outcome
  | .ok outcome => do
    if outcome.isNew then
      p.announce "WebhookCreated" s!"Created webhook {outcome.id} on {scope.path}"
    return ⟨p.holds Source.webhookConfigured { st with webhookId := some outcome.id },
      .ok .resync⟩
  | .error e =>
    if e.isDenied then do
      p.warn "AccessDenied" e.message
      return ⟨p.fails Source.webhookConfigured "AccessDenied" e.message st, .ok .resync⟩
    else
      return ⟨p.fails Source.webhookConfigured "WebhookSyncFailed" e.message st,
        .error (.hooks e)⟩

/-- Makes the hook of a scope as it should be, by `Hook.sync`. -/
def syncHook (scope : Scope) (accessToken : String) (options : Hook.Options)
    (recorded : Option Int) : Act W (Except Hook.Error Hook.Outcome) := do
  match ← p.team.hooks.client scope accessToken with
  | .error e => return .error e
  | .ok client => Hook.sync p.team.count client options recorded

/-- The fields of the hook that a source asks for. -/
def hookOptions (address secretToken : String) : Hook.Options :=
  .ofSettings address secretToken p.source.spec.sslVerify p.source.spec.eventTypes

/-- Makes the hook as it should be, and judges how that ended. -/
def configureHook (address accessToken secretToken : String) (st : Source.Status) :
    Act W Outcome := do
  match p.source.spec.scope with
  | .error fault => return ⟨st, .error (.invalid (.scope fault))⟩
  | .ok scope =>
    let r ← p.syncHook scope accessToken (p.hookOptions address secretToken) st.webhookId
    p.judgeHook scope st r

/-! ## The tokens -/

/-- The tokens that a source refers to: its `accessToken` for GitLab, then its `secretToken` for
deliveries. -/
def tokenKeys (s : Source) : List (Option SecretKey) :=
  [some s.spec.accessToken, s.spec.secretToken]

/-- Ends a pass whose tokens somebody has to put right. -/
def awaitTokens (reason : String) (e : Credential.Failure) (st : Source.Status) :
    Act W Outcome := do
  p.warn reason e.message
  return ⟨p.fails Source.webhookConfigured reason e.message st,
    .ok (.after p.settings.credentialsRetry)⟩

/-- Judges why the tokens are not available, in `WebhookConfigured`. -/
def judgeTokens (st : Source.Status) (e : Credential.Failure) : Act W Outcome :=
  match e with
  | .secretNotFound _ | .keyNotFound _ _ => p.awaitTokens "SecretNotFound" e st
  | .notText _ _ => p.awaitTokens "InvalidSecret" e st
  | .store _ _ =>
    return ⟨p.fails Source.webhookConfigured "SecretReadFailed" e.message st,
      .error (.credentials e)⟩

/-- Reads the tokens, and goes on to the hook. -/
def useTokens (address : String) (st : Source.Status) : Act W Outcome := do
  match ← Credential.resolveAll p.team.secrets p.namespace_ (tokenKeys p.source) [] with
  | (.error e, _) => p.judgeTokens st e
  | (.ok tokens, _) => p.configureHook address (tokens.getD 0 "") (tokens.getD 1 "") st

/-! ## The receive adapter -/

/-- Judges whether the adapter can take deliveries, in `Deployed`, and goes on to the tokens. -/
def useReceiver (st : Source.Status) (r : Receiver) : Act W Outcome :=
  if !r.ready then
    return ⟨p.fails Source.deployed "ReceiveAdapterNotReady"
      s!"receive adapter {r.name} is not ready" st, .ok .resync⟩
  else
    let st := p.holds Source.deployed st
    match r.address with
    | none =>
      return ⟨p.unclear Source.webhookConfigured "ReceiveAdapterNoAddress"
        s!"receive adapter {r.name} has no address yet" st, .ok .resync⟩
    | some address => p.useTokens address st

/-- The adapter that the source owns, if there is one: the first in its namespace whose managing
owner has its `uid`. Without a `uid` it can own none. -/
def ownedReceiver : Act W (Except Receiver.Error (Option Receiver)) := do
  match p.source.metadata.uid with
  | none => return .ok none
  | some uid =>
    match ← p.team.receivers.list p.namespace_ with
    | .error e => return .error e
    | .ok receivers => return .ok (receivers.find? fun r => r.isControlledBy uid)

/-- Creates the adapter of the source, by `Receiver.plan`. -/
def createReceiver (sinkUri : String) : Act W (Except Receiver.Error Receiver) := do
  match Receiver.plan p.settings p.source sinkUri with
  | .error e => return .error e
  | .ok plan =>
    match ← p.team.receivers.create plan with
    | .error e => return .error e
    | .ok r =>
      p.team.count .adapterCreated
      p.announce "ReceiveAdapterCreated" s!"Created receive adapter {r.name}"
      return .ok r

/-- Finds or creates the adapter, and goes on with it. -/
def deploy (sinkUri : String) (st : Source.Status) : Act W Outcome := do
  match ← p.ownedReceiver with
  | .error e => return ⟨st, .error (.receiver e)⟩
  | .ok (some r) => p.useReceiver st r
  | .ok none =>
    match ← p.createReceiver sinkUri with
    | .error e =>
      return ⟨p.fails Source.deployed "ReceiveAdapterCreateFailed" e.detail st,
        .error (.receiver e)⟩
    | .ok r => p.useReceiver st r

/-! ## The sink -/

/-- Resolves the sink, judges that in `SinkProvided`, and goes on to the adapter. -/
def provideSink (st : Source.Status) : Act W Outcome := do
  match ← p.team.sinks.resolve p.namespace_ p.source.spec.sink with
  | .error e =>
    if e.isTransient then return ⟨st, .error (.sink e)⟩
    else
      return ⟨p.fails Source.sinkProvided "SinkNotFound" e.message { st with sinkUri := none },
        .ok .resync⟩
  | .ok uri => p.deploy uri (p.holds Source.sinkProvided { st with sinkUri := some uri })

/-! ## The whole pass -/

/-- Whether a pass can work with a source: it obeys `Spec.validate` and has a scope. -/
def check (s : Source) : Except Source.Invalidity Unit := do
  s.spec.validate
  let _ ← s.spec.scope.mapError .scope
  return ()

/-- Checks the source, and goes on to the sink. -/
def run (st : Source.Status) : Act W Outcome :=
  match check p.source with
  | .error e =>
    return ⟨p.fails Source.webhookConfigured "InvalidSpec" e.message st, .ok .awaitChange⟩
  | .ok () => p.provideSink { st with attributes := attributes p.source }

/-- Looks at the source once: `converge` is a whole pass. Whatever happens, the generation that was
looked at is recorded as `observedGeneration`. -/
def converge : Act W Outcome := do
  let outcome ← p.run (p.complete p.source.statusOrBlank)
  return { outcome with
    status := { outcome.status with observedGeneration := p.source.metadata.generation } }

end Pass

end HookRelay

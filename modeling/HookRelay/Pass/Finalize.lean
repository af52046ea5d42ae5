import HookRelay.Hook.Sync
import HookRelay.Pass.Basic

/-!
# Taking a source down

Before a source goes, its hook is deleted: the source is *finalized*. A hook that cannot be deleted,
because what the source says does not lead to it or access is denied, is abandoned, and somebody is
told; a failure that may pass by itself is not, and the source stays until it does.

## Main definitions

* `Fate` : what became of a hook
* `Pass.finalize` : deletes the hook of a source
-/

namespace HookRelay

/-- What became of a hook. -/
inductive Pass.Fate where
  /-- It is gone. -/
  | deleted
  /-- It was left where it is. -/
  | abandoned (why : String)
  deriving DecidableEq, Repr

namespace Pass

variable {W : Type} (p : Pass W)

/-- Deletes a hook through a client, by `Hook.remove`; one to which access is denied is
abandoned. -/
def deleteThrough (client : Hook.Client W) (id : Int) : Act W (Except Error Fate) := do
  match ← Hook.remove p.team.count client id with
  | .ok _ => return .ok .deleted
  | .error e => return if e.isDenied then .ok (.abandoned e.message) else .error (.hooks e)

/-- Deletes a hook with a token. -/
def deleteWith (scope : Scope) (accessToken : String) (id : Int) : Act W (Except Error Fate) := do
  match ← p.team.hooks.client scope accessToken with
  | .ok client => p.deleteThrough client id
  | .error (.invalidUrl text) => return .ok (.abandoned (Hook.Error.invalidUrl text).message)
  | .error e => return .error (.hooks e)

/-- Deletes a hook of the source. -/
def deleteHook (id : Int) : Act W (Except Error Fate) := do
  match p.source.spec.scope with
  | .error fault => return .ok (.abandoned (Source.Invalidity.scope fault).message)
  | .ok scope =>
    match ← Credential.resolve p.team.secrets p.namespace_ p.source.spec.accessToken [] with
    | (.ok token, _) => p.deleteWith scope token id
    | (.error e, _) =>
      return if e.isMissing then .ok (.abandoned e.message) else .error (.credentials e)

/-- Tells somebody if the hook was abandoned, with a `WebhookAbandoned` notice, and says what became
of it. -/
def report (id : Int) : Fate → Act W String
  | .deleted => return s!"webhook {id} deleted"
  | .abandoned why => do
    p.warn "WebhookAbandoned" s!"Webhook {id} was left on GitLab: {why}"
    return s!"webhook {id} abandoned: {why}"

/-- The status of a source whose hook is no longer its own: without a `webhookId`, and with
`WebhookConfigured` failing. -/
def withoutHook (message : String) (st : Source.Status) : Source.Status :=
  p.fails Source.webhookConfigured "WebhookDeleted" message
    (p.complete { st with webhookId := none })

/-- Finalizes the source: deletes its recorded hook, and without one has nothing to do. -/
def finalize : Act W (Except Error Source.Status) := do
  let st := p.source.statusOrBlank
  match st.webhookId with
  | none => return .ok st
  | some id =>
    match ← p.deleteHook id with
    | .error e => return .error e
    | .ok fate => return .ok (p.withoutHook (← p.report id fate) st)

end Pass

end HookRelay

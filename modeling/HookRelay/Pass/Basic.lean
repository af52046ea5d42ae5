import HookRelay.Controller.Settings
import HookRelay.Credential.Basic
import HookRelay.Hook.Basic
import HookRelay.Metrics
import HookRelay.Notice.Basic
import HookRelay.Receiver.Basic
import HookRelay.Sink.Basic
import HookRelay.Source.Validity

/-!
# One pass over a source

A pass looks at one source once, within a `reconcile` call, and brings the world closer to what the
source asks for. It works only through its collaborators, and judges by one clock reading. This
module holds what all passes share; what they do is in the modules beside it, `Pass.converge` and
`Pass.finalize`.

## Main definitions

* `Collaborators` : what a pass works with
* `Requeue` : when to look at the source again
* `Pass.Error` : why a pass failed
* `Pass` : a source with what a pass over it needs
-/

namespace HookRelay

/-- What a pass works with: the secret store, the webhook provider, the platform of receive
adapters, the sink resolver, the event publisher and the counters. -/
structure Collaborators (W : Type) where
  secrets : Credential.Secrets W
  hooks : Hook.Provider W
  receivers : Receiver.Platform W
  sinks : Sink.Resolver W
  notices : Notice.Publisher W
  count : Counter → Act W Unit

/-- When to look at a source again. -/
inductive Requeue where
  /-- After the usual time, the `resync` of the settings. -/
  | resync
  /-- After a number of seconds. -/
  | after (seconds : Nat)
  /-- When the source changes. -/
  | awaitChange
  deriving DecidableEq, Repr

/-- The name of a time to look again, the label `reason` of `Counter.requeue`. -/
def Requeue.name : Requeue → String
  | resync => "resync"
  | after _ => "retry-after"
  | awaitChange => "await-change"

/-- Why a pass failed. -/
inductive Pass.Error where
  | cluster (cause : Cluster.Error)
  | invalid (cause : Source.Invalidity)
  | credentials (cause : Credential.Failure)
  | hooks (cause : Hook.Error)
  | sink (cause : Sink.Error)
  | receiver (cause : Receiver.Error)
  deriving DecidableEq, Repr

/-- The wording of an error. -/
def Pass.Error.message : Pass.Error → String
  | cluster cause => s!"Kubernetes API error: {cause.message}"
  | invalid cause => s!"Invalid GitLabSource: {cause.message}"
  | credentials cause => s!"Credential error: {cause.message}"
  | hooks cause => s!"GitLab API error: {cause.message}"
  | sink cause => s!"Sink resolution failed: {cause.message}"
  | receiver cause => s!"Receive adapter error: {cause.message}"

/-- A source with what a pass over it needs. -/
structure Pass (W : Type) where
  team : Collaborators W
  settings : Controller.Settings
  /-- The reading of the clock by which everything is judged. -/
  now : Time.Instant
  source : Source

namespace Pass

variable {W : Type} (p : Pass W)

/-- The namespace in which the pass works. -/
def namespace_ : String := p.source.namespaceOrEmpty

/-! ## Judging conditions -/

/-- Changes the conditions of a status. -/
def conditions (change : List Condition → List Condition) (st : Source.Status) : Source.Status :=
  { st with conditions := change st.conditions }

/-- Brings the conditions of a status into their full form, by `Condition.Set.complete`. -/
def complete : Source.Status → Source.Status := conditions (Source.conditions.complete p.now)

/-- Judges that a condition holds. -/
def holds (name : String) : Source.Status → Source.Status :=
  conditions (Source.conditions.markTrue p.now name)

/-- Judges that a condition fails. -/
def fails (name reason message : String) : Source.Status → Source.Status :=
  conditions (Source.conditions.markFalse p.now name reason message)

/-- Judges that a condition cannot be told. -/
def unclear (name reason message : String) : Source.Status → Source.Status :=
  conditions (Source.conditions.markUnknown p.now name reason message)

/-! ## Telling people -/

/-- Publishes that something was made, in a `Normal` notice. -/
def announce (reason note : String) : Act W Unit :=
  p.team.notices.publish (p.source.notice .normal reason note)

/-- Publishes that help is needed, in a `Warning` notice. -/
def warn (reason note : String) : Act W Unit :=
  p.team.notices.publish (p.source.notice .warning reason note)

end Pass

end HookRelay

import HookRelay.Cluster.Metadata
import HookRelay.Condition.Set

/-!
# Sources

A source, an object of the kind `GitLabSource`, declares that a GitLab project or group is to have a
hook, and that the events of some categories are to be delivered to a sink. Its `spec` is what it
asks for; its `status` records what the controller arrived at: the address of the sink, the hook's
number, the conditions, and the types and origin of the events that will be seen.

## Main definitions

* `Source` : a source as the cluster stores it
* `Source.Spec`, `Source.Status` : what is asked for, and what was reached
* `Destination` : where events go
* `Source.conditions` : the conditions a source carries
-/

namespace HookRelay

/-- One key of a secret in the namespace of the source: a `secretKeyRef`. -/
structure SecretKey where
  name : String
  key : String
  deriving DecidableEq, Repr, Inhabited

/-- A reference to an object that can be addressed: the `ref` of a destination. -/
structure ObjectRef where
  apiVersion : String
  kind : String
  name : String
  /-- The namespace of the source if absent. -/
  namespace_ : Option String
  deriving DecidableEq, Repr, Inhabited

/-- Where events go: an object (`ref`), an address (`uri`), or an address relative to that of an
object. -/
structure Destination where
  reference : Option ObjectRef
  uri : Option String
  deriving DecidableEq, Repr, Inhabited

/-- The type and the origin of events that a source emits: an entry of its `ceAttributes`. -/
structure EventAttributes where
  type : String
  source : String
  deriving DecidableEq, Repr, Inhabited

/-- What a source asks for: its `spec`. -/
structure Source.Spec where
  serviceAccountName : Option String
  /-- The project to register a hook on; excludes `groupUrl`. -/
  projectUrl : Option String
  /-- The group to register a hook on; excludes `projectUrl`. -/
  groupUrl : Option String
  /-- The settings of the hook's categories, as in `Event.Category.setting`. -/
  eventTypes : List String
  /-- The token that authorises changes of hooks. -/
  accessToken : SecretKey
  /-- The secret that deliveries carry in `X-Gitlab-Token`. -/
  secretToken : Option SecretKey
  /-- Whether GitLab checks the certificate of the address it delivers to, written as
  `sslverify`. -/
  sslVerify : Bool
  sink : Destination
  deriving DecidableEq, Repr, Inhabited

/-- What was reached for a source: its `status`. -/
structure Source.Status where
  /-- The `generation` of the metadata that was looked at last. -/
  observedGeneration : Option Int
  sinkUri : Option String
  /-- The number of the hook on GitLab, written as `webhookID`. -/
  webhookId : Option Int
  conditions : List Condition
  attributes : List EventAttributes
  deriving DecidableEq, Repr, Inhabited

/-- A source as the cluster stores it. -/
structure Source where
  metadata : Cluster.Metadata
  spec : Source.Spec
  status : Option Source.Status
  deriving DecidableEq, Repr, Inhabited

namespace Source

/-- The status of a source that nothing was done for. -/
def Status.blank : Status := ⟨none, none, none, [], []⟩

/-- The name of the condition of readiness. -/
def ready : String := "Ready"

/-- The name of the condition that the sink has an address. -/
def sinkProvided : String := "SinkProvided"

/-- The name of the condition that the receive adapter runs and is ready. -/
def deployed : String := "Deployed"

/-- The name of the condition that the hook is as it should be. -/
def webhookConfigured : String := "WebhookConfigured"

/-- The conditions a source carries; all contribute to its being ready. -/
def conditions : Condition.Set where
  ready := ready
  members := [⟨sinkProvided, true⟩, ⟨deployed, true⟩, ⟨webhookConfigured, true⟩]

/-- Whether the condition of readiness, `Ready`, holds. -/
def Status.isReady (s : Status) : Bool :=
  match Condition.find? ready s.conditions with
  | some c => c.status = Condition.holds
  | none => false

/-- The group, version and kind under which sources are stored. -/
def group : String := "sources.knative.dev"

/-- The version under which sources are stored. -/
def version : String := "v1alpha1"

/-- The group and version as one text. -/
def apiVersion : String := group ++ "/" ++ version

/-- The kind of sources. -/
def kind : String := "GitLabSource"

/-- The plural under which sources are listed. -/
def plural : String := "gitlabsources"

/-- The status of a source, blank if there is none yet. -/
def statusOrBlank (s : Source) : Status := s.status.getD .blank

/-- The namespace of a source; empty if it has none. -/
def namespaceOrEmpty (s : Source) : String := s.metadata.namespaceOrEmpty

end Source

end HookRelay

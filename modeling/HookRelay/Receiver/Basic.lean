import HookRelay.Controller.Settings
import HookRelay.Source.Scope
import HookRelay.World.Act

/-!
# Receive adapters

Every source has a receive adapter of its own, which takes the deliveries of its hook and passes
them on to its sink. The adapter is told what to do by its environment, and names the source among
its `ownerReferences` as the owner that manages it (`controller`), by which it is found again.

## Main definitions

* `Receiver` : a receive adapter that runs
* `Receiver.Plan` : a receive adapter that is to be created
* `Receiver.plan` : the adapter that a source needs
* `Receiver.Platform` : where adapters run
-/

namespace HookRelay

/-- A receive adapter, as far as a pass looks at it. -/
structure Receiver where
  name : String
  /-- The `uid`s of the owners that manage the adapter. -/
  controllers : List String
  ready : Bool
  /-- Where the adapter takes deliveries: the `url` that it publishes. -/
  address : Option String
  deriving DecidableEq, Repr

namespace Receiver

/-- Whether the owner of a `uid` manages the adapter. -/
def isControlledBy (r : Receiver) (uid : String) : Bool := r.controllers.contains uid

/-- What a variable of an environment holds. -/
inductive Value where
  | text (s : String)
  /-- What stands under a key of a secret when the adapter starts, by a `secretKeyRef`. -/
  | secret (key : SecretKey)
  deriving DecidableEq, Repr

/-- A variable of an environment. -/
structure Variable where
  name : String
  value : Value
  deriving DecidableEq, Repr

/-- The source that an adapter belongs to. -/
structure Owner where
  name : String
  uid : String
  deriving DecidableEq, Repr

/-- A receive adapter that is to be created: what its specification is made of. -/
structure Plan where
  /-- What the name of the adapter is to begin with, its `generateName`. -/
  generateName : String
  namespace_ : String
  labels : List (String × String)
  owner : Owner
  serviceAccountName : Option String
  image : String
  environment : List Variable
  deriving DecidableEq, Repr

/-- Why there is no receive adapter. -/
inductive Error where
  /-- The source cannot be named as an owner. -/
  | noUid
  | noNamespace
  /-- The platform failed: what it failed at, and what lies behind that. -/
  | platform (summary : String) (causes : List String)
  deriving DecidableEq, Repr

/-- The wording of an error, in brief. -/
def Error.message : Error → String
  | noUid => "GitLabSource has no uid"
  | noNamespace => "GitLabSource has no namespace"
  | platform summary _ => summary

/-- The wording of an error with all that lies behind it, as a condition shows it. -/
def Error.detail : Error → String
  | platform summary causes => ": ".intercalate (summary :: causes)
  | e => e.message

/-- What is said if adapters cannot be listed. -/
def listSummary : String := "Failed to list receive adapters"

/-- What is said if an adapter cannot be created. -/
def createSummary : String := "Failed to create receive adapter"

/-- The label by which adapters are listed, `receive-adapter=gitlab`. -/
def labels : List (String × String) := [("receive-adapter", "gitlab")]

/-- The environment of the adapter of a source: `K_SINK`, `GITLAB_EVENT_SOURCE` and the like, from
which `Delivery.Settings.read` takes what it needs. -/
def environment (s : Source) (namespace_ sinkUri logLevel : String) : List Variable :=
  (s.spec.secretToken.toList.map fun key => ⟨"GITLAB_SECRET_TOKEN", .secret key⟩)
    ++ [⟨"GITLAB_EVENT_SOURCE", .text s.spec.eventSource⟩,
      ⟨"K_SINK", .text sinkUri⟩,
      ⟨"NAMESPACE", .text namespace_⟩,
      ⟨"METRICS_DOMAIN", .text "knative.dev/eventing"⟩,
      ⟨"METRICS_PROMETHEUS_PORT", .text "9092"⟩,
      ⟨"RUST_LOG", .text logLevel⟩]

/-- The owner that a source is, if it has a `name` and a `uid`. -/
def Owner.ofSource? (s : Source) : Option Owner :=
  match s.metadata.name, s.metadata.uid with
  | some name, some uid => some ⟨name, uid⟩
  | _, _ => none

/-- The receive adapter that a source needs. -/
def plan (settings : Controller.Settings) (s : Source) (sinkUri : String) : Except Error Plan :=
  match Owner.ofSource? s, s.metadata.namespace_ with
  | none, _ => .error .noUid
  | some _, none => .error .noNamespace
  | some owner, some namespace_ => .ok {
      generateName := s.metadata.displayName ++ "-"
      namespace_ := namespace_
      labels := labels
      owner := owner
      serviceAccountName := s.spec.serviceAccountName
      image := settings.adapterImage
      environment := environment s namespace_ sinkUri settings.adapterLogLevel }

/-- Where receive adapters run: adapters are listed and created there, and neither changed nor
deleted. -/
structure Platform (W : Type) where
  list : (namespace_ : String) → Act W (Except Error (List Receiver))
  create : Plan → Act W (Except Error Receiver)

end Receiver

end HookRelay

import HookRelay.Cluster.Resource
import HookRelay.Notice.Basic

/-!
# Notices in the cluster

The cluster keeps notices as objects of a kind of its own, `Event` of `events.k8s.io`, in the
namespace of the object that they are about. A notice that it refuses is dropped.
-/

namespace HookRelay.Notice

open Cluster (Api Resource)

/-- Where notices are kept. -/
def resource : Resource := ⟨"events.k8s.io", "v1", "Event", "events"⟩

/-- Where the notices about an object without a namespace are kept. -/
def defaultNamespace : String := "default"

/-- A notice as the cluster keeps it. -/
def toJson (controller : String) (n : Notice) : Json :=
  Json.ofFields ([("action", .string n.action), ("apiVersion", .string resource.apiVersion),
      ("kind", .string resource.kind),
      ("metadata", .object (presentField "namespace" .string n.subject.namespace_)),
      ("reason", .string n.reason), ("regarding", n.subject.toJson),
      ("reportingController", .string controller), ("reportingInstance", .string controller),
      ("type", .string n.level.text)]
    ++ presentField "note" .string n.note)

/-- Passes notices on to a cluster, in the name of a controller. -/
def Publisher.ofCluster {W : Type} (api : Api W) (controller : String) : Publisher W where
  publish := fun n => do
    let path := resource.path (n.subject.namespace_.getD defaultNamespace)
    let _ ← api.create path (n.toJson controller) Json.Decoder.any
    return ()

end HookRelay.Notice

import HookRelay.Cluster.Service
import HookRelay.Sink.Basic

/-!
# Sinks of the cluster

The address of a core `Service` of the cluster follows from its name, once it is known that the
service exists. Every other object is an *addressable*, which publishes its address in its status,
as `status.address.url`.
-/

namespace HookRelay.Sink

open Cluster (Api Object Resource)

/-- Whether a reference names a core `Service` of the cluster. -/
def isService (r : ObjectRef) : Bool := r.apiVersion = "v1" && r.kind = "Service"

/-- The address of a service of the cluster. -/
def serviceAddress (name namespace_ : String) : String :=
  s!"http://{name}.{namespace_}.svc.cluster.local/"

/-- The group and the version of an `apiVersion`; a text without a slash is a version. -/
def splitApiVersion (apiVersion : String) : String × String :=
  match Text.splitFirst '/' apiVersion.toList with
  | some (group, version) => (String.ofList group, String.ofList version)
  | none => ("", apiVersion)

/-- Where the objects are kept that a reference is about. -/
def resourceOf (r : ObjectRef) : Resource :=
  let (group, version) := splitApiVersion r.apiVersion
  .named group version r.kind

/-- The address that an object publishes in `status.address.url`, unless it is empty. -/
def publishedAddress? (object : Json) : Option String :=
  ((object.getPath? ["status", "address", "url"]).bind Json.asText?).filter fun s => s ≠ ""

variable {W : Type}

/-- The address of a service, if it exists. -/
def addressOfService (api : Api W) (namespace_ : String) (r : ObjectRef) :
    Act W (Except Error Url) := do
  match ← api.get? (Cluster.Service.resource.path namespace_) r.name
      Cluster.Service.record.decode with
  | .error e => return .error (.unanswered e)
  | .ok none => return .error (.notFound r.kind namespace_ r.name)
  | .ok (some ()) => return httpAddress (serviceAddress r.name namespace_)

/-- The address that an object publishes, if it exists. -/
def addressOfObject (api : Api W) (namespace_ : String) (r : ObjectRef) :
    Act W (Except Error Url) := do
  match ← api.get? ((resourceOf r).path namespace_) r.name Object.read with
  | .error e => return .error (.unanswered e)
  | .ok none => return .error (.notFound r.kind namespace_ r.name)
  | .ok (some object) =>
    match publishedAddress? object.data with
    | none => return .error (.noAddress r.kind namespace_ r.name)
    | some address => return httpAddress address

/-- The address of the object of a reference; the reference may name its own namespace. -/
def addressOf (api : Api W) (namespace_ : String) (r : ObjectRef) : Act W (Except Error Url) :=
  let namespace_ := r.namespace_.getD namespace_
  if isService r then addressOfService api namespace_ r else addressOfObject api namespace_ r

/-- The sinks of a cluster. -/
def Resolver.ofCluster (api : Api W) : Resolver W where
  resolve := fun namespace_ d => do
    match d.reference with
    | none => return join none d.uri
    | some r =>
      match ← addressOf api namespace_ r with
      | .error e => return .error e
      | .ok base => return join (some base) d.uri

end HookRelay.Sink

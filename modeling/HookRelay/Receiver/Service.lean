import HookRelay.Cluster.Resource
import HookRelay.Receiver.Basic
import HookRelay.Source.Format

/-!
# Receive adapters as services

A receive adapter runs as a Knative `Service`, which scales with its load. The service says in its
status whether it is ready and where it is reached; its address stands in one of two places,
`status.url` and `status.address.url`.
-/

namespace HookRelay.Receiver

open Cluster (Api Object Resource)

/-- Where services are kept. -/
def resource : Resource := ⟨"serving.knative.dev", "v1", "Service", "services"⟩

/-- The label by which services are listed. -/
def label : Cluster.Label := ⟨"receive-adapter", "gitlab"⟩

/-! ## Writing -/

/-- The written form of a variable. -/
def Variable.toJson (v : Variable) : Json :=
  .object [("name", .string v.name),
    match v.value with
    | .text s => ("value", .string s)
    | .secret key => ("valueFrom", key.toWrappedJson)]

/-- The written form of an owner that manages what it owns: an entry of `ownerReferences` with
`controller` set. -/
def Owner.toJson (o : Owner) : Json :=
  .object [("apiVersion", .string Source.apiVersion), ("controller", .bool true),
    ("kind", .string Source.kind), ("name", .string o.name), ("uid", .string o.uid)]

namespace Plan

/-- The labels of an adapter. -/
def labelsJson (p : Plan) : Json := Json.ofFields (p.labels.map fun l => (l.1, .string l.2))

/-- What the service runs. -/
def container (p : Plan) : Json :=
  .object [("env", .array (p.environment.map Variable.toJson)), ("image", .string p.image)]

/-- The service of an adapter that is to be created. -/
def toJson (p : Plan) : Json :=
  .object [
    ("apiVersion", .string resource.apiVersion),
    ("kind", .string resource.kind),
    ("metadata", .object [
      ("generateName", .string p.generateName),
      ("labels", p.labelsJson),
      ("namespace", .string p.namespace_),
      ("ownerReferences", .array [p.owner.toJson])]),
    ("spec", .object [("template", .object [
      ("metadata", .object [("labels", p.labelsJson)]),
      ("spec", .object [
        ("containers", .array [p.container]),
        ("serviceAccountName", .ofText? p.serviceAccountName)])])])]

end Plan

/-! ## Reading -/

/-- Whether a condition of a service says that it is ready: `Ready` is `True`. -/
def isReadyCondition (c : Json) : Bool :=
  c.get? "type" == some (.string "Ready") && c.get? "status" == some (.string "True")

/-- Whether a service says that it is ready. -/
def isReadyService (object : Json) : Bool :=
  match object.getPath? ["status", "conditions"] with
  | some (.array cs) => cs.any isReadyCondition
  | _ => false

/-- Where a service publishes its address: in `status.url`, or else in `status.address.url`. -/
def addressField? (object : Json) : Option Json :=
  object.getPath? ["status", "url"] <|> object.getPath? ["status", "address", "url"]

/-- The address that a service publishes, if what stands in `addressField?` is a text that is not
empty. -/
def serviceAddress? (object : Json) : Option String :=
  ((addressField? object).bind Json.asText?).filter fun s => s ≠ ""

/-- The receive adapter that a service is. -/
def ofObject (o : Object) : Receiver where
  name := o.metadata.displayName
  controllers := o.metadata.controllers
  ready := isReadyService o.data
  address := serviceAddress? o.data

/-- An error of the cluster, with what the platform failed at. -/
def Error.ofCluster (summary : String) (e : Cluster.Error) : Error :=
  .platform summary (e.message :: e.causes)

/-- The receive adapters of a cluster. -/
def Platform.ofCluster {W : Type} (api : Api W) : Platform W where
  list := fun namespace_ => do
    match ← api.list (resource.path namespace_) label with
    | .error e => return .error (.ofCluster listSummary e)
    | .ok objects => return .ok (objects.map ofObject)
  create := fun p => do
    match ← api.create (resource.path p.namespace_) p.toJson Object.read with
    | .error e => return .error (.ofCluster createSummary e)
    | .ok object => return .ok (ofObject object)

end HookRelay.Receiver

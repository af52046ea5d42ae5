import HookRelay.Cluster.Resource

/-!
# Services of the cluster itself

A core `Service` of the cluster has an address that follows from its name. All that is read of it is
whether it has the form of a `Service`.
-/

namespace HookRelay.Cluster.Service

open Json (Decoder Record)

/-- A record of which only the form matters. -/
def form (what : String) (fields : List (Json.Field Unit)) : Record Unit :=
  ⟨what, (), fields, true⟩

/-- A text that has to be a given one. -/
def exactly (expected : String) : Decoder Unit
  | .string s =>
    if s = expected then .ok () else .error (.wrongValue (.string s) expected)
  | d => Decoder.refuse "a string" d

/-- The fields that every object of a kind has. -/
def common (apiVersion kind : String) : List (Json.Field Unit) := [
  .may "apiVersion" (exactly apiVersion) (fun _ s => s),
  .may "kind" (exactly kind) (fun _ s => s),
  checked "metadata" Metadata.record.decode]

/-- A number or a text. -/
def numberOrText : Decoder Unit
  | .string _ => .ok ()
  | .number n => (Decoder.int32 (.number n)).map fun _ => ()
  | d => Decoder.refuse "an integer or a string" d

/-- The form of a `ServicePort`. -/
def port : Record Unit := form "ServicePort" [
  checked "appProtocol" .text, checked "name" .text, checked "nodePort" .int32,
  checked "port" .int32, checked "protocol" .text, checked "targetPort" numberOrText]

/-- The form of a `sessionAffinityConfig`, the rules by which clients stay with one of several
servers. -/
def affinity : Record Unit := form "SessionAffinityConfig" [
  checked "clientIP" (form "ClientIPConfig" [checked "timeoutSeconds" .int32]).decode]

/-- The form of a `ServiceSpec`, what a service asks for. -/
def spec : Record Unit := form "ServiceSpec" [
  checked "allocateLoadBalancerNodePorts" .flag,
  checked "clusterIP" .text,
  checked "clusterIPs" (.list .text),
  checked "externalIPs" (.list .text),
  checked "externalName" .text,
  checked "externalTrafficPolicy" .text,
  checked "healthCheckNodePort" .int32,
  checked "internalTrafficPolicy" .text,
  checked "ipFamilies" (.list .text),
  checked "ipFamilyPolicy" .text,
  checked "loadBalancerClass" .text,
  checked "loadBalancerIP" .text,
  checked "loadBalancerSourceRanges" (.list .text),
  checked "ports" (.list port.decode),
  checked "publishNotReadyAddresses" .flag,
  checked "selector" (.map .text),
  checked "sessionAffinity" .text,
  checked "sessionAffinityConfig" affinity.decode,
  checked "trafficDistribution" .text,
  checked "type" .text]

/-- The form of a condition of a service. -/
def condition : Record Unit := form "Condition" [
  checked "lastTransitionTime" instant, checked "message" .text,
  checked "observedGeneration" .int64, checked "reason" .text, checked "status" .text,
  checked "type" .text]

/-- The form of a `PortStatus`, a port of a way in. -/
def portStatus : Record Unit := form "PortStatus" [
  checked "error" .text, checked "port" .int32, checked "protocol" .text]

/-- The form of a `LoadBalancerIngress`, a way in from outside. -/
def ingress : Record Unit := form "LoadBalancerIngress" [
  checked "hostname" .text, checked "ip" .text, checked "ipMode" .text,
  checked "ports" (.list portStatus.decode)]

/-- The form of a `ServiceStatus`. -/
def status : Record Unit := form "ServiceStatus" [
  checked "conditions" (.list condition.decode),
  checked "loadBalancer"
    (form "LoadBalancerStatus" [checked "ingress" (.list ingress.decode)]).decode]

/-- The form of a `Service`. -/
def record : Record Unit :=
  form "Service" (common "v1" "Service" ++ [checked "spec" spec.decode,
    checked "status" status.decode])

/-- Where services are kept. -/
def resource : Resource := ⟨"", "v1", "Service", "services"⟩

end HookRelay.Cluster.Service

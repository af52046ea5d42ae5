import HookRelay.Source.Basic

/-!
# The written form of sources

How sources, their destinations and their statuses are read and written. A `status` always lists all
of its fields, absent ones as `null`; a `spec` leaves absent fields out.

## Main definitions

* `Source.record`, `Source.Spec.record`, `Source.Status.record` : reading
* `Source.Spec.toJson`, `Source.Status.toJson`, `Destination.toJson` : writing
-/

namespace HookRelay

open Json (Record)

/-! ## Reading -/

/-- Reads a key of a secret. -/
def SecretKey.record : Record SecretKey where
  what := "struct SecretKeySelector"
  blank := ⟨"", ""⟩
  fields := [
    .must "name" .text (fun v s => { s with name := v }),
    .must "key" .text (fun v s => { s with key := v })]

/-- Reads a key of a secret where it is wrapped as the origin of a value, under `secretKeyRef`. -/
def SecretKey.wrapped : Record SecretKey where
  what := "struct SecretValueFromSource"
  blank := ⟨"", ""⟩
  fields := [.must "secretKeyRef" SecretKey.record.decode (fun v _ => v)]

/-- Reads a reference to an object. -/
def ObjectRef.record : Record ObjectRef where
  what := "struct KReference"
  blank := ⟨"", "", "", none⟩
  fields := [
    .must "apiVersion" .text (fun v r => { r with apiVersion := v }),
    .must "kind" .text (fun v r => { r with kind := v }),
    .must "name" .text (fun v r => { r with name := v }),
    .may "namespace" (.optional .text) (fun v r => { r with namespace_ := v })]

/-- Reads a destination. -/
def Destination.record : Record Destination where
  what := "struct Destination"
  blank := ⟨none, none⟩
  fields := [
    .may "ref" (.optional ObjectRef.record.decode) (fun v d => { d with reference := v }),
    .may "uri" (.optional .text) (fun v d => { d with uri := v })]

/-- Reads the type and origin of events. -/
def EventAttributes.record : Record EventAttributes where
  what := "struct CloudEventAttributes"
  blank := ⟨"", ""⟩
  fields := [
    .must "type" .text (fun v a => { a with type := v }),
    .must "source" .text (fun v a => { a with source := v })]

namespace Source

/-- Reads what a source asks for. -/
def Spec.record : Record Spec where
  what := "struct GitLabSourceSpec"
  blank := ⟨none, none, none, [], ⟨"", ""⟩, none, false, ⟨none, none⟩⟩
  fields := [
    .may "serviceAccountName" (.optional .text) (fun v s => { s with serviceAccountName := v }),
    .may "projectUrl" (.optional .text) (fun v s => { s with projectUrl := v }),
    .may "groupUrl" (.optional .text) (fun v s => { s with groupUrl := v }),
    .may "eventTypes" (.list .text) (fun v s => { s with eventTypes := v }),
    .must "accessToken" SecretKey.wrapped.decode (fun v s => { s with accessToken := v }),
    .may "secretToken" (.optional SecretKey.wrapped.decode)
      (fun v s => { s with secretToken := v }),
    .may "sslverify" .flag (fun v s => { s with sslVerify := v }),
    .must "sink" Destination.record.decode (fun v s => { s with sink := v })]

/-- Reads a status. -/
def Status.record : Record Status where
  what := "struct GitLabSourceStatus"
  blank := .blank
  fields := [
    .may "observedGeneration" (.optional .int64) (fun v s => { s with observedGeneration := v }),
    .may "sinkUri" (.optional .text) (fun v s => { s with sinkUri := v }),
    .may "webhookID" (.optional .int64) (fun v s => { s with webhookId := v }),
    .may "conditions" (.list Condition.record.decode) (fun v s => { s with conditions := v }),
    .may "ceAttributes" (.list EventAttributes.record.decode)
      (fun v s => { s with attributes := v })]

/-- Reads a source. -/
def record : Record Source where
  what := "struct GitLabSource"
  blank := ⟨.blank, Spec.record.blank, none⟩
  fields := [
    .must "metadata" Cluster.Metadata.record.decode (fun v s => { s with metadata := v }),
    .must "spec" Spec.record.decode (fun v s => { s with spec := v }),
    .option "status" (.optional Status.record.decode) (fun v s => { s with status := v })]

/-- Reads a source from a value. -/
def ofJson (j : Json) : Except Json.Mismatch Source := Json.decode record.decode j

end Source

/-! ## Writing -/

/-- The field of a present value, and nothing for an absent one. -/
def presentField {α : Type} (key : String) (write : α → Json) : Option α → List (String × Json)
  | some a => [(key, write a)]
  | none => []

/-- The written form of a key of a secret. -/
def SecretKey.toJson (s : SecretKey) : Json :=
  .object [("key", .string s.key), ("name", .string s.name)]

/-- The written form of a key of a secret as the origin of a value, under `secretKeyRef`. -/
def SecretKey.toWrappedJson (s : SecretKey) : Json := .object [("secretKeyRef", s.toJson)]

/-- The written form of a reference. -/
def ObjectRef.toJson (r : ObjectRef) : Json :=
  .object ([("apiVersion", .string r.apiVersion), ("kind", .string r.kind),
    ("name", .string r.name)] ++ presentField "namespace" .string r.namespace_)

/-- The written form of a destination. -/
def Destination.toJson (d : Destination) : Json :=
  .object (presentField "ref" ObjectRef.toJson d.reference ++ presentField "uri" .string d.uri)

/-- The written form of the type and origin of events. -/
def EventAttributes.toJson (a : EventAttributes) : Json :=
  .object [("source", .string a.source), ("type", .string a.type)]

namespace Source

/-- The written form of what a source asks for. -/
def Spec.toJson (s : Spec) : Json :=
  .object ([("accessToken", s.accessToken.toWrappedJson),
      ("eventTypes", .array (s.eventTypes.map .string))]
    ++ presentField "groupUrl" .string s.groupUrl
    ++ presentField "projectUrl" .string s.projectUrl
    ++ presentField "secretToken" SecretKey.toWrappedJson s.secretToken
    ++ presentField "serviceAccountName" .string s.serviceAccountName
    ++ [("sink", s.sink.toJson), ("sslverify", .bool s.sslVerify)])

/-- An optional number: `null` when absent. -/
def numberOrNull : Option Int → Json
  | some n => .ofInt n
  | none => .null

/-- The written form of a status: every field, absent ones as `null`. -/
def Status.toJson (s : Status) : Json :=
  .object [("ceAttributes", .array (s.attributes.map EventAttributes.toJson)),
    ("conditions", .array (s.conditions.map Condition.toJson)),
    ("observedGeneration", numberOrNull s.observedGeneration),
    ("sinkUri", .ofText? s.sinkUri),
    ("webhookID", numberOrNull s.webhookId)]

end Source

end HookRelay

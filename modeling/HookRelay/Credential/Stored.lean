import HookRelay.Cluster.Service
import HookRelay.Credential.Basic
import HookRelay.Text.Base64

/-!
# Secrets of the cluster

A secret holds its bytes in base64, as `data`, and may hold texts beside them, as `stringData`;
where a key has both, the bytes count.
-/

namespace HookRelay.Credential

open Cluster (Api Resource)
open Json (Decoder Record)

/-- Bytes in base64. -/
def base64 : Decoder ByteArray
  | .string s =>
    match Text.Base64.decode s with
    | some bytes => .ok bytes
    | none => .error (.wrongValue (.string s) "base64")
  | d => Decoder.refuse "a string" d

/-- A secret as the cluster stores it. -/
structure Stored where
  data : Data
  texts : List (String × String)

/-- Reads a secret. -/
def Stored.record : Record Stored where
  what := "Secret"
  blank := ⟨[], []⟩
  lenient := true
  fields := [
    .may "apiVersion" (Cluster.Service.exactly "v1") (fun _ s => s),
    .may "kind" (Cluster.Service.exactly "Secret") (fun _ s => s),
    .may "data" (.optional (.map base64)) (fun v s => { s with data := v.getD [] }),
    Cluster.checked "immutable" .flag,
    Cluster.checked "metadata" Cluster.Metadata.record.decode,
    .may "stringData" (.optional (.map .text)) (fun v s => { s with texts := v.getD [] }),
    Cluster.checked "type" .text]

/-- What a secret holds. -/
def Stored.held (s : Stored) : Data :=
  s.data ++ (s.texts.filter fun t => (s.data.find? t.1).isNone).map fun t => (t.1, t.2.toUTF8)

/-- Where secrets are kept. -/
def resource : Resource := ⟨"", "v1", "Secret", "secrets"⟩

/-- The secrets of a cluster. -/
def Secrets.ofCluster {W : Type} (api : Api W) : Secrets W where
  get := fun namespace_ name => do
    match ← api.get? (resource.path namespace_) name Stored.record.decode with
    | .error e => return .error e.message
    | .ok none => return .ok none
    | .ok (some s) => return .ok (some s.held)

end HookRelay.Credential

import HookRelay.Cluster.Resource
import HookRelay.Source.Format

/-!
# Sources in the cluster

The cluster keeps the `status` of a source apart from the rest: it is written by a request of its
own to `/status`, in which every field stands, so that a field that is absent replaces one that was
there.
-/

namespace HookRelay.Source

open Cluster (Api Resource)

/-- Where sources are kept. -/
def resource : Resource := ⟨group, version, kind, plural⟩

/-- The change that writes a status, a patch that is merged (`Json.merge`). -/
def statusPatch (s : Status) : Json := .object [("status", s.toJson)]

variable {W : Type}

/-- Writes the status of a source. -/
def writeStatus (api : Api W) (namespace_ name : String) (s : Status) :
    Act W (Except Cluster.Error Unit) := do
  match ← api.change (resource.path namespace_) name "/status" (.merge (statusPatch s))
      record.decode with
  | .error e => return .error e
  | .ok _ => return .ok ()

/-- Changes the source of a name by the operations of a `Json.Patch`. -/
def change (api : Api W) (namespace_ name : String) (patch : Json.Patch) :
    Act W (Except Cluster.Error Source) :=
  api.change (resource.path namespace_) name "" (.operations patch) record.decode

end HookRelay.Source

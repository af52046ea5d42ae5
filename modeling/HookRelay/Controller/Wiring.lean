import HookRelay.Controller.Basic
import HookRelay.Credential.Stored
import HookRelay.Hook.Rest
import HookRelay.Notice.Cluster
import HookRelay.Receiver.Service
import HookRelay.Sink.Cluster

/-!
# The controller in a cluster

In a cluster the collaborators of a pass are the cluster itself and GitLab.
-/

namespace HookRelay

/-- How the controller calls itself. -/
def Controller.name : String := "gitlab-source-controller"

variable {W : Type}

/-- The collaborators that a cluster and a network are. -/
def Collaborators.ofCluster (api : Cluster.Api W) (net : Http.Network W)
    (notices : Notice.Publisher W) (count : Counter → Act W Unit) : Collaborators W where
  secrets := .ofCluster api
  hooks := .rest net
  receivers := .ofCluster api
  sinks := .ofCluster api
  notices := notices
  count := count

/-- The controller of a cluster. -/
def Controller.ofCluster (api : Cluster.Api W) (net : Http.Network W)
    (settings : Controller.Settings) (registry : Part W Retry.Registry)
    (count : Counter → Act W Unit) : Controller W :=
  ⟨api, .ofCluster api net (.ofCluster api Controller.name) count, settings, registry⟩

end HookRelay

import HookRelay.Proofs.Controller.Saving
import HookRelay.Proofs.World.InMemory

/-!
# A cluster with one source

A world in memory beside a cluster that stores one source and may refuse its status. The
controller in this world keeps to the laws, so that runs in it serve as examples.

## Main definitions

* `OneSource` : the world
* `OneSource.controller`, `OneSource.sight` : the controller, and the source as it sees it
* `OneSource.before` : the world before the first look

## Main statements

* `OneSource.lawful` : the controller keeps to the laws
-/

namespace HookRelay

/-- A world in memory beside a cluster that stores one source. -/
structure OneSource where
  memory : InMemory
  /-- The source as the cluster stores it. -/
  object : Json
  /-- Whether the cluster refuses the status of the source. -/
  refusing : Bool
  registry : Retry.Registry

namespace OneSource

/-- What is in memory. -/
def memoryPart : Part OneSource InMemory :=
  ⟨OneSource.memory, fun m w => { w with memory := m }⟩

/-- The failures of the source. -/
def registryPart : Part OneSource Retry.Registry :=
  ⟨OneSource.registry, fun g w => { w with registry := g }⟩

/-- The hooks in memory. -/
def hooksPart : Part OneSource Hook.Store := memoryPart.inside InMemory.hooksPart

/-- The collaborators in memory. -/
def collaborators : Collaborators OneSource where
  secrets := Credential.Memory.secretsOf (memoryPart.inside InMemory.secretsPart)
  hooks := Hook.Store.provider hooksPart
  receivers := Receiver.Memory.platform (memoryPart.inside InMemory.receiversPart)
  sinks := Sink.Memory.resolver (memoryPart.inside InMemory.sinksPart)
  notices := ⟨fun n => memoryPart.act (InMemory.publish n)⟩
  count c := memoryPart.act (InMemory.count c)

/-- The place of the status. -/
def place : String := Source.resource.path "team" ++ "/" ++ "repo" ++ "/status"

/-- A cluster that knows the status of the source and nothing else. -/
def api : Cluster.Api OneSource where
  send r := fun w =>
    match r.content with
    | .merge patch =>
      if Cluster.target? place = some (r.path, r.query) && !w.refusing then
        (⟨200, .json (Json.merge w.object patch)⟩,
          { w with object := Json.merge w.object patch })
      else (⟨500, .text "no answer"⟩, w)
    | .read | .create _ | .operations _ => (⟨500, .text "no answer"⟩, w)

/-- The controller in this world. -/
def controller : Controller OneSource := ⟨api, collaborators, {}, registryPart⟩

/-- The source of the world. -/
noncomputable def sight : Controller.Sight OneSource where
  namespace_ := "team"
  name := "repo"
  scope := InMemory.project
  object := OneSource.object
  gitlab w := w.memory.gitlab

theorem lawful_hooksPart : hooksPart.Lawful :=
  Part.Lawful.inside (fun _ _ => rfl) InMemory.lawful_hooksPart

theorem servesHooks : collaborators.ServesHooks InMemory.project sight.gitlab where
  others := {
    sinks _ _ _ := rfl
    lists _ _ := rfl
    creates _ _ := rfl
    secrets _ _ _ := rfl
    notices _ _ _ := rfl
    counters _ _ := rfl }
  notices _ _ := rfl
  provider := Hook.Store.provider_serves lawful_hooksPart InMemory.project

/-- The collaborators touch nothing but the memory. -/
theorem beside {d : Drift OneSource} (apart : ∀ m w, d.rel w { w with memory := m }) :
    collaborators.Throughout d where
  others := {
    sinks _ _ w := apart _ w
    lists _ w := apart _ w
    creates _ w := apart _ w
    secrets _ _ w := apart _ w
    notices _ _ w := apart _ w
    counters _ w := apart _ w }
  notices _ w := apart _ w
  provider := {
    opens _ _ w := apart _ w
    clients run := by
      rw [Hook.Store.client_of_provider run]
      exact ⟨fun _ w => apart _ w, fun _ w => apart _ w, fun _ _ w => apart _ w,
        fun _ w => apart _ w⟩ }

/-- No collaborator touches the stored source. -/
theorem throughout : collaborators.Throughout (Drift.fixing sight.status) :=
  beside fun _ _ => rfl

/-- **The controller keeps to the laws.** -/
theorem lawful : controller.Lawful sight where
  hooks := servesHooks
  apart := throughout
  others r noMerge := by
    intro w
    obtain ⟨path, query, content⟩ := r
    cases content with
    | merge patch => exact absurd rfl (noMerge patch)
    | read | create _ | operations _ => rfl
  saves {path query patch w w' r} written sent := by
    have here : Cluster.target? place = some (path, query) := written
    simp only [controller, api, here] at sent
    cases refusing : w.refusing with
    | true =>
      rw [refusing] at sent
      cases sent
      exact ⟨rfl, .inl ⟨rfl, by decide, by decide⟩⟩
    | false =>
      rw [refusing] at sent
      cases sent
      exact ⟨rfl, .inr rfl⟩
  registry _ _ := rfl

/-- The source of the world, which carries the `mark` of the controller. -/
def source : Source :=
  { InMemory.source with
    metadata := { InMemory.source.metadata with finalizers := some [Controller.mark] } }

/-- The source as the cluster stores it before the first look. -/
def blank : Json := .object [
  ("metadata", .object [
    ("finalizers", .array [.string Controller.mark]),
    ("generation", .ofInt 1),
    ("name", .string "repo"),
    ("namespace", .string "team"),
    ("uid", .string "u-1")]),
  ("spec", source.spec.toJson)]

/-- The world before the first look: all that the source depends on is there, but its status is
refused. -/
def before : OneSource := ⟨InMemory.ready, blank, true, []⟩

theorem shows_before {w : OneSource} (same : w.object = blank) : sight.Shows w source where
  stored := by
    show Source.IsStored w.object
    rw [same]
    exact ⟨rfl, nofun⟩
  read := by
    show Source.ofJson w.object = .ok source
    rw [same]
    rfl
  inNamespace := rfl
  named := rfl
  inScope scope inScope := (Except.ok.inj inScope).symm

end OneSource

end HookRelay

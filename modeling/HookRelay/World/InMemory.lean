import HookRelay.Credential.Memory
import HookRelay.Hook.Store
import HookRelay.Pass.Basic
import HookRelay.Receiver.Memory
import HookRelay.Sink.Memory

/-!
# A world in memory

All collaborators of a pass in memory, in one world. Each is a part of its own, so that what one
does is not seen by the others.

## Main definitions

* `InMemory` : the world
* `InMemory.collaborators` : its parts as the collaborators of a pass
-/

namespace HookRelay

/-- A world in memory. -/
structure InMemory where
  secrets : Credential.Memory
  hooks : Hook.Store
  receivers : Receiver.Memory
  sinks : Sink.Memory
  /-- What was published, the latest first. -/
  notices : List Notice
  /-- The counters that went up, the latest first. -/
  counters : List Counter

namespace InMemory

/-- A world in which nothing is there and nothing fails. -/
def empty : InMemory := ⟨.empty, .empty, .empty, .healthy, [], []⟩

/-- The secrets of the world. -/
def secretsPart : Part InMemory Credential.Memory :=
  ⟨InMemory.secrets, fun m w => { w with secrets := m }⟩

/-- The hooks of the world. -/
def hooksPart : Part InMemory Hook.Store := ⟨InMemory.hooks, fun m w => { w with hooks := m }⟩

/-- The receive adapters of the world. -/
def receiversPart : Part InMemory Receiver.Memory :=
  ⟨InMemory.receivers, fun m w => { w with receivers := m }⟩

/-- The sinks of the world. -/
def sinksPart : Part InMemory Sink.Memory := ⟨InMemory.sinks, fun m w => { w with sinks := m }⟩

/-- Publishes a notice. -/
def publish (n : Notice) : Act InMemory Unit := fun w => ((), { w with notices := n :: w.notices })

/-- Counts. -/
def count (c : Counter) : Act InMemory Unit := fun w => ((), { w with counters := c :: w.counters })

/-- The parts of the world as the `Collaborators` of a pass. -/
def collaborators : Collaborators InMemory where
  secrets := Credential.Memory.secretsOf secretsPart
  hooks := Hook.Store.provider hooksPart
  receivers := Receiver.Memory.platform receiversPart
  sinks := Sink.Memory.resolver sinksPart
  notices := ⟨publish⟩
  count := count

/-- The world without the record of what was done in it. -/
def forget (w : InMemory) : InMemory where
  secrets := { w.secrets with reads := [] }
  hooks := { w.hooks with calls := [] }
  receivers := { w.receivers with lists := [], created := [] }
  sinks := { w.sinks with asked := [] }
  notices := []
  counters := []

end InMemory

end HookRelay

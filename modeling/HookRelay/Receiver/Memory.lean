import HookRelay.Receiver.Basic

/-!
# Receive adapters in memory

A platform that keeps adapters in memory: a new one carries the name that its plan begins, and is
ready and addressed if the platform is told so. Listing and creating can be made to fail, and
then change nothing.
-/

namespace HookRelay.Receiver

/-- Receive adapters in memory. -/
structure Memory where
  /-- The adapters with their namespaces, in the order in which they came. -/
  adapters : List (String × Receiver)
  /-- Whether new adapters are ready. -/
  readyOnCreate : Bool
  /-- The address of adapters that are ready. -/
  address : String
  /-- Why adapters cannot be listed, if they cannot. -/
  listFailure : Option String
  /-- Why adapters cannot be created, if they cannot. -/
  createFailure : Option String
  /-- The namespaces that were listed, the latest first. -/
  lists : List String
  /-- The adapters that were created, the latest first. -/
  created : List Plan

namespace Memory

/-- No adapters. -/
def empty : Memory :=
  ⟨[], false, "http://adapter.default.svc.cluster.local", none, none, [], []⟩

/-- An adapter that is ready has an address, and one that is not has none. -/
def addressIf (ready : Bool) (m : Memory) : Option String := if ready then some m.address else none

/-- The adapter of a plan. -/
def started (p : Plan) (m : Memory) : Receiver where
  name := p.generateName ++ "abcde"
  controllers := [p.owner.uid]
  ready := m.readyOnCreate
  address := m.addressIf m.readyOnCreate

/-- Changes every adapter. -/
def changeAll (change : Receiver → Receiver) (m : Memory) : Memory :=
  { m with adapters := m.adapters.map fun a => (a.1, change a.2) }

/-- Makes every adapter ready, or none. -/
def setReady (ready : Bool) (m : Memory) : Memory :=
  m.changeAll fun r => { r with ready := ready, address := m.addressIf ready }

/-- Adds an adapter. -/
def add (namespace_ : String) (r : Receiver) (m : Memory) : Memory :=
  { m with adapters := m.adapters ++ [(namespace_, r)] }

/-- The adapters of a namespace. -/
def within (namespace_ : String) (m : Memory) : List Receiver :=
  (m.adapters.filter fun a => a.1 = namespace_).map Prod.snd

/-- Lists the adapters of a namespace. -/
def list (namespace_ : String) : Act Memory (Except Error (List Receiver)) := fun m =>
  (match m.listFailure with
    | some why => .error (.platform why [])
    | none => .ok (m.within namespace_),
    { m with lists := namespace_ :: m.lists })

/-- Creates an adapter. -/
def create (p : Plan) : Act Memory (Except Error Receiver) := fun m =>
  match m.createFailure with
  | some why => (.error (.platform createSummary [why]), m)
  | none =>
    let r := m.started p
    (.ok r, { m.add p.namespace_ r with created := p :: m.created })

/-- Adapters in memory as a part of a world. -/
def platform {W : Type} (part : Part W Memory) : Platform W where
  list := fun namespace_ => part.act (list namespace_)
  create := fun p => part.act (create p)

end Memory

end HookRelay.Receiver

import HookRelay.Sink.Basic

/-!
# Sinks in memory

A resolver that answers as it is told, and records what it was asked.
-/

namespace HookRelay.Sink

/-- How destinations are resolved. -/
inductive Answer where
  /-- Every destination has this address. -/
  | address (uri : String)
  /-- A destination has the address it gives, or else a common one. -/
  | own
  | missing
  | notFound
  | noAddress
  | invalidUri
  /-- The answer is cut off. -/
  | cutOff
  deriving DecidableEq, Repr

/-- Sinks in memory. -/
structure Memory where
  answer : Answer
  /-- The namespaces and destinations that were asked for, the latest first. -/
  asked : List (String × Destination)

namespace Memory

/-- Every destination has an address. -/
def healthy : Memory := ⟨.own, []⟩

/-- The address of a destination that gives none. -/
def commonAddress : String := "http://default-broker.default.svc.cluster.local/"

/-- The answer for a destination. -/
def answerFor (namespace_ : String) (d : Destination) : Answer → Except Error String
  | .address uri => .ok uri
  | .own => .ok (d.uri.getD commonAddress)
  | .missing => .error .missing
  | .notFound => .error (.notFound kind namespace_ name)
  | .noAddress => .error (.noAddress kind namespace_ name)
  | .invalidUri => .error (.invalidUri (d.uri.getD "") notHttpText)
  | .cutOff => .error (.unanswered .endlessLine)
where
  kind := (d.reference.map ObjectRef.kind).getD ""
  name := (d.reference.map ObjectRef.name).getD ""

/-- Sinks in memory as a part of a world. -/
def resolver {W : Type} (part : Part W Memory) : Resolver W where
  resolve := fun namespace_ d => part.act fun m =>
    (answerFor namespace_ d m.answer, { m with asked := (namespace_, d) :: m.asked })

end Memory

end HookRelay.Sink

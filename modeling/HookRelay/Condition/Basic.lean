import HookRelay.Json.Decode

/-!
# Conditions

A condition is one observation about a resource: a name, a status and, where the status is not
`True`, a reason and a message. A resource carries a list of them; of two conditions of one
name the first counts. Anybody can write to a resource, so names, statuses and times of stored
conditions are arbitrary texts.

## Main definitions

* `Condition` : one observation
* `Condition.find?` : the condition of a name that counts
* `Condition.record`, `Condition.toJson` : reading and writing
-/

namespace HookRelay

/-- One observation about a resource: an entry of the `conditions` in its status. -/
structure Condition where
  /-- What is observed: the `type` of the condition. -/
  name : String
  /-- `True`, `False` or `Unknown`, or any other text. -/
  status : String
  /-- When the status last changed: the `lastTransitionTime`. -/
  since : Option String
  /-- Why the status is what it is, as a word. -/
  reason : Option String
  /-- Why the status is what it is, as a sentence. -/
  message : Option String
  deriving DecidableEq, Repr, Inhabited

namespace Condition

/-- The status of a condition that holds. -/
def holds : String := "True"

/-- The status of a condition that fails. -/
def fails : String := "False"

/-- The status of a condition that nothing is known about. -/
def unknown : String := "Unknown"

/-- The condition of a name that counts: the first one of that `type`. -/
def find? (name : String) (cs : List Condition) : Option Condition :=
  cs.find? (fun c => c.name = name)

/-- Reads a condition. -/
def record : Json.Record Condition where
  what := "struct Condition"
  blank := ⟨"", "", none, none, none⟩
  fields := [
    .must "type" .text (fun v c => { c with name := v }),
    .must "status" .text (fun v c => { c with status := v }),
    .may "lastTransitionTime" (.optional .text) (fun v c => { c with since := v }),
    .may "reason" (.optional .text) (fun v c => { c with reason := v }),
    .may "message" (.optional .text) (fun v c => { c with message := v })]

/-- The written form of a condition; what is absent is written as `null`. -/
def toJson (c : Condition) : Json :=
  .object [("lastTransitionTime", .ofText? c.since), ("message", .ofText? c.message),
    ("reason", .ofText? c.reason), ("status", .string c.status), ("type", .string c.name)]

end Condition

end HookRelay

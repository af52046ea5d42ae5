import HookRelay.Controller.Finalizer
import HookRelay.Pass.Converge
import HookRelay.Pass.Finalize
import HookRelay.Retry.Policy
import HookRelay.Source.Stored

/-!
# The controller

The controller looks at a source, with a call of `reconcile`, whenever it changes or its time has
come. A source without the finalizer of the controller, its `mark`, is marked first; a marked one
gets a pass (`apply`), and what the pass arrived at is written to the cluster; a marked one that is
being deleted loses its hook (`cleanup`) and then its mark.

## Main definitions

* `Controller` : what the controller works with
* `Controller.Error` : why looking at a source failed
* `Controller.reconcile` : looks at a source
* `Controller.handle` : looks at a source, and says when to do so again
-/

namespace HookRelay

/-- What the controller works with. -/
structure Controller (W : Type) where
  api : Cluster.Api W
  team : Collaborators W
  settings : Controller.Settings
  /-- The failures of all sources. -/
  registry : Part W Retry.Registry

namespace Controller

/-- Why a `reconcile` call failed. -/
inductive Error where
  /-- Bringing the source to what it asks for failed, in `apply`. -/
  | apply (cause : Pass.Error)
  /-- Taking the source down failed, in `cleanup`. -/
  | cleanup (cause : Pass.Error)
  | putMark (cause : Cluster.Error)
  | takeMark (cause : Cluster.Error)
  /-- The source has no name. -/
  | unnamed
  deriving DecidableEq, Repr

/-- The wording of an error. -/
def Error.message (e : Error) : String :=
  "Finalizer error: " ++ match e with
    | apply cause => s!"failed to apply object: {cause.message}"
    | cleanup cause => s!"failed to clean up object: {cause.message}"
    | putMark cause => s!"failed to add finalizer: {cause.message}"
    | takeMark cause => s!"failed to remove finalizer: {cause.message}"
    | unnamed => "object has no name"

variable {W : Type} (c : Controller W)

/-- What is done when a `reconcile` call failed: the error policy. -/
def policy : Retry.Policy W := ⟨c.settings.errorBackoff, c.registry, c.team.count⟩

/-- A pass over a source. -/
def pass (now : Time.Instant) (s : Source) : Pass W := ⟨c.team, c.settings, now, s⟩

/-- The seconds after which a `Requeue` has the source looked at again, if it does. -/
def delay? : Requeue → Option Nat
  | .resync => some c.settings.resync
  | .after seconds => some seconds
  | .awaitChange => none

/-- Writes a status by a `PATCH` of `/status`, unless the source has it already. -/
def saveStatus (s : Source) (st : Source.Status) : Act W (Except Cluster.Error Unit) :=
  if s.status = some st then pure (.ok ())
  else Source.writeStatus c.api s.namespaceOrEmpty s.metadata.displayName st

/-- Settles a pass that succeeded: the backoff of the source is reset, so that it starts over as one
that never failed. -/
def settle (s : Source) (r : Requeue) : Act W (Option Nat) := do
  let _ ← c.policy.reset (Retry.sourceKey s)
  c.team.count (.requeue r.name)
  return c.delay? r

/-- Brings a source to what it asks for: `apply` makes a pass and writes its status, also when the
pass failed. -/
def apply (now : Time.Instant) (s : Source) : Act W (Except Pass.Error (Option Nat)) := do
  let outcome ← (c.pass now s).converge
  match ← c.saveStatus s outcome.status with
  | .error e => return .error (.cluster e)
  | .ok () =>
    match outcome.result with
    | .error e => return .error e
    | .ok requeue => return .ok (← c.settle s requeue)

/-- Takes a source down: `cleanup` finalizes it. The status that this gives need not be written. -/
def cleanup (now : Time.Instant) (s : Source) : Act W (Except Pass.Error (Option Nat)) := do
  match ← (c.pass now s).finalize with
  | .error e => return .error e
  | .ok st =>
    let _ ← c.saveStatus s st
    return .ok none

/-- Changes the `finalizers` of a source. -/
def changeMarks (s : Source) (name : String) (patch : Json.Patch) :
    Act W (Except Cluster.Error Unit) := do
  match ← Source.change c.api s.namespaceOrEmpty name patch with
  | .error e => return .error e
  | .ok _ => return .ok ()

/-- Marks a source with the finalizer; the change that this is brings the source back. -/
def markSource (s : Source) : Act W (Except Error (Option Nat)) := do
  match s.metadata.name with
  | none => return .error .unnamed
  | some name =>
    match ← c.changeMarks s name (putMark s) with
    | .error e => return .error (.putMark e)
    | .ok () => return .ok none

/-- Takes a source down, and lets it go by taking the finalizer off. -/
def release (now : Time.Instant) (s : Source) (index : Nat) :
    Act W (Except Error (Option Nat)) := do
  match s.metadata.name with
  | none => return .error .unnamed
  | some name =>
    match ← c.cleanup now s with
    | .error e => return .error (.cleanup e)
    | .ok delay =>
      match ← c.changeMarks s name (takeMark index) with
      | .error e => return .error (.takeMark e)
      | .ok () => return .ok delay

/-- Does what the `finalizers` of a source and its `deletionTimestamp` ask for. -/
def dispatch (now : Time.Instant) (s : Source) : Act W (Except Error (Option Nat)) := do
  match markIndex? s, s.metadata.deleting with
  | some _, false =>
    match ← c.apply now s with
    | .error e => return .error (.apply e)
    | .ok delay => return .ok delay
  | some index, true => c.release now s index
  | none, false => c.markSource s
  | none, true => return .ok none

/-- Looks at a source, which is a `reconcile` call; the answer is after how many seconds to do so
again, if at all. -/
def reconcile (now : Time.Instant) (s : Source) : Act W (Except Error (Option Nat)) := do
  c.team.count .reconciliation
  let r ← c.dispatch now s
  c.team.count .reconciliationDuration
  return r

/-- Looks at a source, and says when to do so again and what failed: a failed `reconcile` call is
handed to the `policy`. -/
def handle (now : Time.Instant) (s : Source) : Act W (Option Nat × Option Error) := do
  match ← c.reconcile now s with
  | .ok delay => return (delay, none)
  | .error e => return (some (← c.policy.afterFailure s), some e)

end Controller

end HookRelay

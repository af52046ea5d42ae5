import HookRelay.Controller.Basic
import HookRelay.Proofs.Pass.Calls

/-!
# What a controller does, entry by entry

A controller works through its collaborators, and sends requests to the cluster itself. Put a
recorder before both, and what it did is a list of entries: what it asked and was answered, and
what it sent, with the world as it was at that moment. As with passes, the recorder changes nothing.

## Main definitions

* `Entry` : what is recorded
* `Controller.recorded` : a controller that is recorded

## Main statements

* `reconcile_recorded` : the recorder changes nothing
* `change_recorded` : a change sends one request at most
-/

namespace HookRelay.Controller

open Cluster (Api Request)

/-- What is recorded of a controller. -/
inductive Entry (W : Type) where
  /-- A look at a source began. -/
  | began (source : Source)
  /-- A collaborator was asked. -/
  | asked (call : Pass.Call)
  /-- A request was sent to the cluster; the world is the one in which it was sent. -/
  | sent (request : Request) (world : W)

variable {W : Type}

/-- A cluster whose requests are recorded. -/
def recordedApi (api : Api W) : Api (W × List (Entry W)) where
  send r := fun s => ((api.send r s.1).1, (api.send r s.1).2, .sent r s.1 :: s.2)

/-- The failures of all sources, beside a record. -/
def besideRecord (registry : Part W Retry.Registry) :
    Part (W × List (Entry W)) Retry.Registry where
  get s := registry.get s.1
  set g s := (registry.set g s.1, s.2)

variable (c : Controller W)

/-- A controller that is recorded. -/
def recorded : Controller (W × List (Entry W)) where
  api := recordedApi c.api
  team := c.team.noted .asked
  settings := c.settings
  registry := besideRecord c.registry

/-! ## The recorder changes nothing -/

section Shadows

variable (now : Time.Instant) (s : Source)

theorem call_recorded_shadows {α : Type} (written : String) (content : Request.Content)
    (read : Json.Decoder α) :
    (c.recorded.api.call written content read).Shadows (c.api.call written content read) := by
  unfold Api.call
  cases Cluster.target? written with
  | none => exact .pure _
  | some target =>
    have sent : (c.recorded.api.send ⟨target.1, target.2, content⟩).Shadows
        (c.api.send ⟨target.1, target.2, content⟩) := fun _ => ⟨rfl, rfl⟩
    exact sent.bind fun _ => .pure _

theorem change_recorded_shadows {α : Type} (path name part : String) (content : Request.Content)
    (read : Json.Decoder α) :
    (c.recorded.api.change path name part content read).Shadows
      (c.api.change path name part content read) := by
  unfold Api.change
  split
  · exact .pure _
  · exact call_recorded_shadows c _ content read

theorem count_recorded_shadows (n : Counter) :
    (c.recorded.team.count n).Shadows (c.team.count n) := fun _ => ⟨rfl, rfl⟩

theorem saveStatus_recorded (st : Source.Status) :
    (c.recorded.saveStatus s st).Shadows (c.saveStatus s st) := by
  unfold saveStatus
  split
  · exact .pure _
  · refine (change_recorded_shadows c _ _ _ _ _).bind fun answer => ?_
    cases answer with
    | error e => exact .pure _
    | ok stored => exact .pure _

theorem settle_recorded (r : Requeue) : (c.recorded.settle s r).Shadows (c.settle s r) := by
  have forgotten : (c.recorded.policy.reset (Retry.sourceKey s)).Shadows
      (c.policy.reset (Retry.sourceKey s)) := fun _ => ⟨rfl, rfl⟩
  exact forgotten.bind fun _ => (count_recorded_shadows c _).bind fun _ => .pure _

theorem pass_recorded :
    c.recorded.pass now s = (c.pass now s).through (c.team.noted .asked) := rfl

theorem converge_recorded : (c.recorded.pass now s).converge.Shadows (c.pass now s).converge := by
  rw [pass_recorded]
  exact .of_simulates (Pass.simulates_converge (c.team.simulates_noted _))

theorem finalize_recorded : (c.recorded.pass now s).finalize.Shadows (c.pass now s).finalize := by
  rw [pass_recorded]
  exact .of_simulates (Pass.simulates_finalize (c.team.simulates_noted _))

theorem apply_recorded : (c.recorded.apply now s).Shadows (c.apply now s) := by
  refine (converge_recorded c now s).bind fun outcome => ?_
  refine (saveStatus_recorded c s outcome.status).bind fun saved => ?_
  cases saved with
  | error e => exact .pure _
  | ok u =>
    dsimp only
    cases outcome.result with
    | error e => exact .pure _
    | ok requeue => exact (settle_recorded c s requeue).bind fun _ => .pure _

theorem cleanup_recorded : (c.recorded.cleanup now s).Shadows (c.cleanup now s) := by
  refine (finalize_recorded c now s).bind fun answer => ?_
  cases answer with
  | error e => exact .pure _
  | ok st => exact (saveStatus_recorded c s st).bind fun _ => .pure _

theorem changeMarks_recorded (name : String) (patch : Json.Patch) :
    (c.recorded.changeMarks s name patch).Shadows (c.changeMarks s name patch) := by
  refine (change_recorded_shadows c _ _ _ _ _).bind fun answer => ?_
  cases answer with
  | error e => exact .pure _
  | ok changed => exact .pure _

theorem markSource_recorded : (c.recorded.markSource s).Shadows (c.markSource s) := by
  unfold markSource
  cases s.metadata.name with
  | none => exact .pure _
  | some name =>
    refine (changeMarks_recorded c s name _).bind fun answer => ?_
    cases answer with
    | error e => exact .pure _
    | ok u => exact .pure _

theorem release_recorded (index : Nat) :
    (c.recorded.release now s index).Shadows (c.release now s index) := by
  unfold release
  cases s.metadata.name with
  | none => exact .pure _
  | some name =>
    refine (cleanup_recorded c now s).bind fun answer => ?_
    cases answer with
    | error e => exact .pure _
    | ok delay =>
      refine (changeMarks_recorded c s name _).bind fun answer => ?_
      cases answer with
      | error e => exact .pure _
      | ok u => exact .pure _

theorem dispatch_recorded : (c.recorded.dispatch now s).Shadows (c.dispatch now s) := by
  unfold dispatch
  cases markIndex? s with
  | none =>
    cases s.metadata.deleting with
    | true => exact .pure _
    | false => exact markSource_recorded c s
  | some index =>
    cases s.metadata.deleting with
    | true => exact release_recorded c now s index
    | false =>
      refine (apply_recorded c now s).bind fun answer => ?_
      cases answer with
      | error e => exact .pure _
      | ok delay => exact .pure _

/-- **The recorder changes nothing**: a controller that is recorded answers as without, and leaves
the same world behind. -/
theorem reconcile_recorded : (c.recorded.reconcile now s).Shadows (c.reconcile now s) :=
  (count_recorded_shadows c _).bind fun _ => (dispatch_recorded c now s).bind fun _ =>
    (count_recorded_shadows c _).bind fun _ => .pure _

end Shadows

/-! ## What is asked and sent -/

/-- What a pass asks stands on the log. -/
theorem converge_asked (now : Time.Instant) (s : Source) (w : W) (log : List (Entry W)) :
    (c.recorded.pass now s).converge (w, log) = (((c.pass now s).converge w).1,
      ((c.pass now s).converge w).2, ((c.pass now s).calls w).map .asked ++ log) :=
  Pass.converge_noted Entry.asked (c.pass now s) w log

/-- What taking a source down asks stands on the log. -/
theorem finalize_asked (now : Time.Instant) (s : Source) (w : W) (log : List (Entry W)) :
    (c.recorded.pass now s).finalize (w, log) = (((c.pass now s).finalize w).1,
      ((c.pass now s).finalize w).2, ((c.pass now s).partings w).map .asked ++ log) :=
  Pass.finalize_noted Entry.asked (c.pass now s) w log

/-- A change sends one request, or none. -/
theorem change_recorded {α : Type} (path name part : String) (content : Request.Content)
    (read : Json.Decoder α) (w : W) (log : List (Entry W)) :
    (c.recorded.api.change path name part content read (w, log)).2 = (w, log) ∨
      ∃ r : Request, r.content = content ∧
        (c.recorded.api.change path name part content read (w, log)).2 =
          ((c.api.send r w).2, .sent r w :: log) := by
  unfold Api.change
  split
  · exact .inl rfl
  · unfold Api.call
    cases Cluster.target? (path ++ "/" ++ name ++ part) with
    | none => exact .inl rfl
    | some target => exact .inr ⟨⟨target.1, target.2, content⟩, rfl, rfl⟩

end HookRelay.Controller

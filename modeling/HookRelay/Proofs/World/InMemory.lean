import HookRelay.Proofs.Hook.Store
import HookRelay.Proofs.Pass.OnHook
import HookRelay.World.InMemory

/-!
# The world in memory

The parts of the world in memory do not see each other, so that whatever depends on the hooks
alone is left alone by all collaborators but GitLab. A source and a world in memory in which it
can be brought to what it asks for serve as examples.

## Main definitions

* `InMemory.shown`, `InMemory.gitlab` : the hooks in memory, and those while nothing is to fail
* `InMemory.source` : a source
* `InMemory.ready`, `InMemory.untouched` : a world in which it has an adapter, and one in which it
  can have one
* `InMemory.passOver` : a pass over a source in memory

## Main statements

* `InMemory.within_hooks` : all collaborators but GitLab leave the hooks alone
* `InMemory.create_adapter` : what becomes of a plan
-/

namespace HookRelay

/-! ## Adapters -/

namespace Receiver.Memory

variable {m : Memory}

theorem create_of_failing {why : String} (failing : m.createFailure = some why) (plan : Plan) :
    create plan m = (.error (.platform createSummary [why]), m) := by
  rw [create, failing]

theorem create_of_working (working : m.createFailure = none) (plan : Plan) :
    create plan m = (.ok (m.started plan),
      { m.add plan.namespace_ (m.started plan) with created := plan :: m.created }) := by
  rw [create, working]

theorem list_of_working (working : m.listFailure = none) (namespace_ : String) :
    (list namespace_ m).1 = .ok (m.within namespace_) := by
  rw [list, working]

/-- What is listed are the adapters of the namespace. -/
theorem eq_within_of_list {namespace_ : String} {receivers : List Receiver}
    (listed : (list namespace_ m).1 = .ok receivers) :
    m.listFailure = none ∧ receivers = m.within namespace_ := by
  rw [list] at listed
  cases unlisted : m.listFailure with
  | some why =>
    rw [unlisted] at listed
    cases listed
  | none =>
    rw [unlisted] at listed
    exact ⟨rfl, (Except.ok.inj listed).symm⟩

end Receiver.Memory

/-! ## All collaborators -/

namespace InMemory

open Hook (Held Store)

/-- The hooks that memory shows, which are those of every scope. -/
def shown (w : InMemory) : Held := w.hooks.shown

/-- The hooks in memory as long as nothing is to fail. -/
noncomputable def gitlab (w : InMemory) : Option Held := w.hooks.served

theorem lawful_hooksPart : hooksPart.Lawful := fun _ _ => rfl

/-- **All collaborators but GitLab leave the hooks alone.** -/
theorem within_hooks : collaborators.Within (Drift.fixing InMemory.hooks) where
  sinks _ _ _ := rfl
  lists _ _ := rfl
  creates _ _ := rfl
  secrets _ _ _ := rfl
  notices _ _ _ := rfl
  counters _ _ := rfl

/-- Creating an adapter in memory fails and changes nothing, or the adapter is there. -/
theorem create_adapter (plan : Receiver.Plan) (w : InMemory) :
    (∃ e, collaborators.receivers.create plan w = (.error e, w)) ∨
    collaborators.receivers.create plan w = (.ok (w.receivers.started plan),
      { w with receivers := { w.receivers.add plan.namespace_ (w.receivers.started plan)
        with created := plan :: w.receivers.created } }) := by
  have run : collaborators.receivers.create plan w =
      ((Receiver.Memory.create plan w.receivers).1,
        { w with receivers := (Receiver.Memory.create plan w.receivers).2 }) := rfl
  rw [run]
  cases failure : w.receivers.createFailure with
  | some why =>
    rw [Receiver.Memory.create_of_failing failure]
    exact .inl ⟨_, rfl⟩
  | none =>
    rw [Receiver.Memory.create_of_working failure]
    exact .inr rfl

/-- A source on a project of a GitLab instance, with a service as its sink. -/
def source : Source where
  metadata := { Cluster.Metadata.blank with
    name := some "repo", namespace_ := some "team", uid := some "u-1", generation := some 1 }
  spec := {
    serviceAccountName := none
    projectUrl := some "http://[::1]/a/b"
    groupUrl := none
    eventTypes := ["push_events"]
    accessToken := ⟨"gitlab", "token"⟩
    secretToken := none
    sslVerify := true
    sink := ⟨some ⟨"v1", "Service", "broker", none⟩, none⟩ }
  status := none

/-- The project of the source. -/
def project : Scope := ⟨.project, "http://[::1]/", "a/b"⟩

/-- A world in which the source has an adapter that is ready, and its token can be read. -/
def ready : InMemory := { empty with
  secrets := ⟨[("team/gitlab", [("token", ⟨#[116]⟩)])], none, []⟩
  receivers := Receiver.Memory.empty.add "team" ⟨"repo-1", ["u-1"], true, some "http://repo-1"⟩ }

/-- A world in which the source has neither an adapter nor a hook, and can have both. -/
def untouched : InMemory :=
  { ready with receivers := { Receiver.Memory.empty with readyOnCreate := true } }

/-- A pass over a source in memory. -/
def passOver (s : Source) : Pass InMemory := ⟨collaborators, {}, ⟨0⟩, s⟩

end InMemory

end HookRelay

import HookRelay.Proofs.Pass.Again
import HookRelay.Proofs.Pass.Ends
import HookRelay.Proofs.Receiver.Published
import HookRelay.Proofs.World.InMemory

/-!
# Passes that stop for want of an address

A pass goes no further than to an adapter that is ready and has no address; it says so of the hook,
under a reason of its own. Behind an address it always gets to judge the hook, and never by that
reason. So, whatever was said of the hook before, the reason tells whether an address was found: for
an adapter that is read from a service, whether one is published there and is not shadowed.

## Main definitions

* `noAddress` : the reason
* `Source.Status.LacksAddress` : a status that says of its hook that the adapter has no address

## Main statements

* `Pass.useTokens_judges` : behind an address a pass judges the hook, for other reasons
* `Pass.AdapterReached.lacksAddress_iff` : which passes over a ready adapter say so
* `Pass.published_address_iff` : when a published address is found, and what a pass makes of it
* `Pass.shadowed_address` : one that is not found
-/

namespace HookRelay

/-- The reason that is given if the adapter has no address. -/
def Pass.noAddress : String := "ReceiveAdapterNoAddress"

/-- **A status says of its hook that the adapter has no address**: that is the reason that
`WebhookConfigured` shows. -/
def Source.Status.LacksAddress (st : Status) : Prop :=
  ∃ f, st.Shows Source.webhookConfigured f ∧ f.reason = some Pass.noAddress

namespace Pass

open Condition (Finding)
open Receiver (Shadowed published?)

variable {W : Type} {p : Pass W} {st : Source.Status} {f : Finding} {w w₂ : W}
  {uri : String} {r : Receiver}

theorem lacksAddress_judges_iff :
    (p.judges Source.webhookConfigured f st).LacksAddress ↔ f.reason = some noAddress := by
  have shown : (p.judges Source.webhookConfigured f st).Shows Source.webhookConfigured f :=
    shows_judges_self (by decide)
  constructor
  · rintro ⟨g, shown', reason⟩
    rwa [Option.some.inj (shown.symm.trans shown')]
  · intro reason
    exact ⟨f, shown, reason⟩

/-! ## Behind an address -/

/-- What a pass makes of a status when it judges the hook for another reason. -/
def JudgesOtherwise (p : Pass W) (st : Source.Status) : Prop :=
  ∃ f st', st = p.judges Source.webhookConfigured f st' ∧ f.reason ≠ some noAddress

theorem JudgesOtherwise.not_lacksAddress (h : p.JudgesOtherwise st) : ¬ st.LacksAddress := by
  obtain ⟨f, st', rfl, other⟩ := h
  rw [lacksAddress_judges_iff]
  exact other

theorem judgesOtherwise_fails {reason message : String} (ne : reason ≠ noAddress) :
    p.JudgesOtherwise (p.fails Source.webhookConfigured reason message st) :=
  ⟨_, st, rfl, fun same => ne (Option.some.inj same)⟩

theorem judgeHook_judges (scope : Scope) (result : Except Hook.Error Hook.Outcome) (w : W) :
    p.JudgesOtherwise (p.judgeHook scope st result w).1.status := by
  cases result with
  | ok outcome =>
    rw [judgeHook]
    split <;> exact ⟨_, _, rfl, (Option.some_ne_none _).symm⟩
  | error e =>
    rw [judgeHook]
    split <;> exact judgesOtherwise_fails (by decide)

theorem judgeTokens_judges (e : Credential.Failure) (w : W) :
    p.JudgesOtherwise (p.judgeTokens st e w).1.status := by
  cases e with
  | secretNotFound name | keyNotFound name key | notText name key | store name cause =>
    exact judgesOtherwise_fails (by decide)

/-- **Behind an address a pass judges the hook**, and the reason is another one. -/
theorem useTokens_judges (valid : check p.source = .ok ()) (address : String) (w : W) :
    p.JudgesOtherwise (p.useTokens address st w).1.status := by
  obtain ⟨scope, inScope⟩ := scope_of_check valid
  rw [useTokens, Act.bind_apply]
  rcases Credential.resolveAll p.team.secrets p.namespace_ (tokenKeys p.source) [] w with
    ⟨⟨answer, cache⟩, w₃⟩
  cases answer with
  | error e => exact judgeTokens_judges e w₃
  | ok tokens =>
    dsimp only
    rw [configureHook, inScope]
    exact judgeHook_judges scope _ _

/-! ## At the adapter -/

/-- **Which passes over a ready adapter say that it has no address**: those over one without. -/
theorem AdapterReached.lacksAddress_iff (h : p.AdapterReached w uri r w₂) (ready : r.ready = true) :
    (p.converge w).1.status.LacksAddress ↔ r.address = none := by
  obtain ⟨w₁, sink, obtained⟩ := id h
  show (p.run _ w).1.status.LacksAddress ↔ _
  rw [h.run_eq, useReceiver, ready]
  cases addressed : r.address with
  | none => exact iff_of_true (lacksAddress_judges_iff.2 rfl) rfl
  | some address =>
    exact iff_of_false (useTokens_judges sink.valid address w₂).not_lacksAddress
      (Option.some_ne_none address)

/-- **When the address is found that a service publishes.** It is found unless it is shadowed: in
all other services the adapter has the address in the first place, and if there is none, the one in
the second. A shadowed address is not found, and no other one is. A pass whose adapter is such a
service, and is ready, says that the adapter has no address exactly if none is published, or the one
that is published is shadowed. -/
theorem published_address_iff (o : Cluster.Object) :
    ((Receiver.ofObject o).address = published? o.data ↔ ¬ Shadowed o.data) ∧
    (Shadowed o.data → (Receiver.ofObject o).address = none) ∧
    ∀ {W : Type} (p : Pass W) (w w₂ : W) (uri : String),
      p.AdapterReached w uri (.ofObject o) w₂ → (Receiver.ofObject o).ready = true →
      ((p.converge w).1.status.LacksAddress ↔ published? o.data = none ∨ Shadowed o.data) := by
  refine ⟨Receiver.serviceAddress?_eq_published?_iff, Shadowed.serviceAddress?_eq, ?_⟩
  intro W p w w₂ uri reached ready
  rw [reached.lacksAddress_iff ready]
  exact Receiver.serviceAddress?_eq_none_iff

/-! ### In memory -/

/-- A service of the source in memory: it is ready, its second place holds an address, and its first
place what is given, if anything is. -/
def serviceWith (first : Option Json) : Cluster.Object where
  metadata := { Cluster.Metadata.blank with
    name := some "repo-1", owners := some [⟨"u-1", some true⟩] }
  data := .object [("status", .object ([
    ("address", .object [("url", .string "http://repo-1")]),
    ("conditions", .array [.object [("status", .string "True"), ("type", .string "Ready")]])]
      ++ first.toList.map fun j => ("url", j)))]

/-- A world in which the adapter of the source is a service. -/
def servedBy (o : Cluster.Object) : InMemory :=
  { InMemory.ready with receivers := Receiver.Memory.empty.add "team" (.ofObject o) }

/-- An address in the second place, with nothing in the first. -/
theorem second_place_found :
    ∃ w₂, (InMemory.passOver InMemory.source).AdapterReached (servedBy (serviceWith none))
      Sink.Memory.commonAddress (.ofObject (serviceWith none)) w₂ ∧
    (Receiver.ofObject (serviceWith none)).ready = true ∧
    ¬ ((InMemory.passOver InMemory.source).converge
      (servedBy (serviceWith none))).1.status.LacksAddress := by
  have reached : (InMemory.passOver InMemory.source).AdapterReached (servedBy (serviceWith none))
      Sink.Memory.commonAddress (.ofObject (serviceWith none)) _ :=
    ⟨_, ⟨by decide +kernel, rfl⟩, .found rfl⟩
  have ready : (Receiver.ofObject (serviceWith none)).ready = true := by decide +kernel
  refine ⟨_, reached, ready, fun lacks => ?_⟩
  obtain none | ⟨taken, -, -⟩ := ((published_address_iff _).2.2 _ _ _ _ reached ready).1 lacks
  · exact absurd none (by decide +kernel)
  · cases taken

/-- **An address that is published and not found**: the adapter of the source is ready and publishes
an address in the second place, and a pass stops because it has none. -/
theorem shadowed_address :
    let o := serviceWith (some (.string ""))
    (Receiver.ofObject o).ready = true ∧ (Receiver.ofObject o).isControlledBy "u-1" = true ∧
    published? o.data = some "http://repo-1" ∧ (Receiver.ofObject o).address = none ∧
    ((InMemory.passOver InMemory.source).converge (servedBy o)).1.status.LacksAddress := by
  refine ⟨by decide +kernel, by decide +kernel, by decide +kernel, by decide +kernel, ?_⟩
  refine ⟨⟨Condition.unknown, some noAddress, some "receive adapter repo-1 has no address yet"⟩,
    ?_, rfl⟩
  unfold Source.Status.Shows
  decide +kernel

end Pass

end HookRelay

import HookRelay.Proofs.Pass.Again
import HookRelay.Proofs.Pass.Calls
import HookRelay.Proofs.Pass.Stabilisation

/-!
# Passing again and again

Where nothing happens around a source but what its passes do, one pass is as good as many: all
later ones arrive at the same status, to the times of its conditions, at whatever times they judge.
None of them makes an adapter or a hook, or tells people that something was made. That is read off
a recorder in between, which leaves collaborators as steady as they are.

## Main definitions

* `Call.isNews` : a call that makes something, or tells people of it
* `Later` : the passes that follow a first one
* `standingInMemory` : how GitLab stands in memory

## Main statements

* `steady_recorded` : a recorder leaves collaborators steady
* `Later.converge_eq` : all passes arrive where the first one did, and make nothing new
-/

namespace HookRelay.Pass

variable {W : Type}

/-! ## A recorder in between -/

section Recorded

open Hook (Standing Held)

variable {team : Collaborators W} {σ : Scope}

theorem serves_recorded {gitlab : W → Option Held} {c : Hook.Client W} (serves : c.Serves gitlab) :
    c.recorded.Serves fun s : W × List Call => gitlab s.1 where
  found up here := by
    obtain ⟨hook, w', run, left⟩ := serves.found up here
    obtain ⟨log, run⟩ := (Act.Shadows.recorded _ _).runs run
    exact ⟨hook, _, run, left⟩
  missing up gone := by
    obtain ⟨e, w', run, missing, left⟩ := serves.missing up gone
    obtain ⟨log, run⟩ := (Act.Shadows.recorded _ _).runs run
    exact ⟨e, _, run, missing, left⟩
  created options up := by
    obtain ⟨hook, w', run, fresh, left⟩ := serves.created options up
    obtain ⟨log, run⟩ := (Act.Shadows.recorded _ _).runs run
    exact ⟨hook, _, run, fresh, left⟩
  edited options up here := by
    obtain ⟨hook, w', run, left⟩ := serves.edited options up here
    obtain ⟨log, run⟩ := (Act.Shadows.recorded _ _).runs run
    exact ⟨hook, _, run, left⟩
  deleted up here := by
    obtain ⟨w', run, left⟩ := serves.deleted up here
    obtain ⟨log, run⟩ := (Act.Shadows.recorded _ _).runs run
    exact ⟨_, run, left⟩
  gone up here := by
    obtain ⟨e, w', run, missing, left⟩ := serves.gone up here
    obtain ⟨log, run⟩ := (Act.Shadows.recorded _ _).runs run
    exact ⟨e, _, run, missing, left⟩

/-- A recorder does not keep GitLab from serving the hooks. -/
theorem servesHooks_recorded {gitlab : W → Option Held} (serves : team.ServesHooks σ gitlab) :
    team.recorded.ServesHooks σ fun s => gitlab s.1 where
  others := {
    sinks := fun _ _ s => serves.others.sinks _ _ s.1
    lists := fun _ s => serves.others.lists _ s.1
    creates := fun _ s => serves.others.creates _ s.1
    secrets := fun _ _ s => serves.others.secrets _ _ s.1
    notices := fun n other s => serves.others.notices n other s.1
    counters := fun _ s => serves.others.counters _ s.1 }
  notices n s := serves.notices n s.1
  provider {s hooks} token up := by
    obtain ⟨c, w', opened, able, left⟩ := serves.provider token up
    have recorded := team.client_recorded σ token s
    rw [opened] at recorded
    exact ⟨c.recorded, _, recorded, serves_recorded able, left⟩

end Recorded

/-! ## What passes make -/

/-- Whether a call makes a hook or an adapter, or tells people of it. -/
def Call.isNews : Call → Bool
  | createAdapter _ (.ok _) => true
  | createHook _ (.ok _) => true
  | publish n => n.level = .normal
  | _ => false

section Unheard

open Hook (Standing)

variable {team : Collaborators W} {σ : Scope} {gitlab : W → Option Standing}

/-- What happens to a recorded world without anything new. -/
def unheard (team : Collaborators W) (gitlab : W → Option Standing) :
    Drift (W × List Call) where
  rel s s' := team.outlook gitlab s'.1 = team.outlook gitlab s.1 ∧
    s'.2.countP Call.isNews = s.2.countP Call.isNews
  refl _ := ⟨rfl, rfl⟩
  trans first second := ⟨second.1.trans first.1, second.2.trans first.2⟩

theorem unheard_cons {c : Call} (old : c.isNews = false) {s : W × List Call} {w₁ : W}
    (moved : team.outlook gitlab w₁ = team.outlook gitlab s.1) :
    (unheard team gitlab).rel s (w₁, c :: s.2) :=
  ⟨moved, List.countP_cons_of_neg (by rw [old]; exact Bool.false_ne_true)⟩

theorem quiet_recorded {c : Hook.Client W} (quiet : c.Quiet (.fixing (team.outlook gitlab))) :
    c.recorded.Quiet (unheard team gitlab) where
  get id s := unheard_cons rfl (quiet.get id s.1)
  edit id options s := unheard_cons rfl (quiet.edit id options s.1)
  refused {options s s' e} run := by
    have moved := quiet.refused ((Act.Shadows.recorded _ _).eq run)
    obtain ⟨answer, rfl⟩ := Prod.mk.inj run
    have old : (Call.createHook options (c.create options s.1).1).isNews = false := by
      rw [answer]; rfl
    exact unheard_cons old moved

theorem client_refuses_recorded {c : Hook.Client W} (refuses : c.Refuses gitlab) :
    c.recorded.Refuses fun s : W × List Call => gitlab s.1 where
  get id standing := refuses.get id standing
  create options standing := refuses.create options standing
  edit id options standing := refuses.edit id options standing

theorem refuses_recorded (refuses : team.hooks.Refuses σ gitlab) :
    team.recorded.hooks.Refuses σ fun s => gitlab s.1 := by
  intro s ρ hooks token standing
  have opened := refuses token standing
  have recorded := congrArg Prod.fst (team.client_recorded σ token s)
  cases refused : ρ.client token with
  | some e =>
    rw [refused] at opened
    have opened : (team.hooks.client σ token s.1).1 = .error e := opened
    rw [opened] at recorded
    exact recorded
  | none =>
    rw [refused] at opened
    obtain ⟨c, opened, refuses⟩ := opened
    rw [opened] at recorded
    exact ⟨c.recorded, recorded, client_refuses_recorded refuses⟩

theorem apart_recorded (apart : team.hooks.Within (.fixing team.replies)) :
    team.recorded.hooks.Within (.fixing team.recorded.replies) where
  opens scope token s := apart.opens scope token s.1
  clients run := by
    obtain ⟨c, opened, rfl⟩ := team.exists_client run
    have within := apart.clients opened
    exact {
      get := fun id s => within.get id s.1
      create := fun options s => within.create options s.1
      edit := fun id options s => within.edit id options s.1
      delete := fun id s => within.delete id s.1 }

variable (steady : team.Steady (.fixing (team.outlook gitlab)) σ gitlab)

include steady in
/-- **A recorder leaves collaborators steady**, and shows that they make nothing new. -/
theorem steady_recorded : team.recorded.Steady (unheard team gitlab) σ fun s => gitlab s.1 where
  same moved := moved.1
  sinks _ _ s := unheard_cons rfl (steady.sinks _ _ s.1)
  secrets _ _ s := unheard_cons rfl (steady.secrets _ _ s.1)
  lists _ s := unheard_cons rfl (steady.lists _ s.1)
  uncreated {plan s s' e} run := by
    have moved := steady.uncreated ((Act.Shadows.recorded _ _).eq run)
    obtain ⟨answer, rfl⟩ := Prod.mk.inj run
    have old : (Call.createAdapter plan (team.receivers.create plan s.1).1).isNews = false := by
      rw [answer]; rfl
    exact unheard_cons old moved
  created run := steady.created ((Act.Shadows.recorded _ _).eq run)
  counters _ s := unheard_cons rfl (steady.counters _ s.1)
  warnings n warning s := by
    have old : (Call.publish n).isNews = false := by simp [Call.isNews, warning]
    exact unheard_cons old (steady.warnings n warning s.1)
  notices n s := steady.notices n s.1
  opens token s := unheard_cons rfl (steady.opens token s.1)
  clients run := by
    obtain ⟨c, opened, rfl⟩ := team.exists_client run
    exact quiet_recorded (steady.clients opened)
  apart := apart_recorded steady.apart
  serves := servesHooks_recorded steady.serves
  refuses := refuses_recorded steady.refuses

end Unheard

/-! ## Passes that follow -/

open Hook (Standing)

/-- **The passes that follow a first one** over a source that nobody edits: each starts from the
status at which the last one arrived and in the world that it left, at any time. -/
inductive Later (p : Pass W) (w : W) : Pass W → W → Prop where
  | second (now : Time.Instant) :
      Later p w (p.again now (p.converge w).1.status) (p.converge w).2
  | next {q : Pass W} {v : W} (later : Later p w q v) (now : Time.Instant) :
      Later p w (q.again now (q.converge v).1.status) (q.converge v).2

namespace Later

variable {p q : Pass W} {w v : W} {σ : Scope} {gitlab : W → Option Standing} {standing : Standing}
  (steady : p.team.Steady (.fixing (p.team.outlook gitlab)) σ gitlab)
  (inScope : ∀ scope, p.source.spec.scope = .ok scope → scope = σ)
  (stands : gitlab w = some standing) (later : Later p w q v)
include steady inScope stands later

/-- Every pass that follows starts as the second one does. -/
theorem restart : (∃ now, q = p.again now (p.converge w).1.status) ∧
    p.team.outlook gitlab v = p.team.outlook gitlab (p.converge w).2 := by
  induction later with
  | second now => exact ⟨⟨now, rfl⟩, rfl⟩
  | @next q v later now ih =>
    obtain ⟨⟨before, rfl⟩, same⟩ := ih
    obtain ⟨arrived, moved⟩ := converge_again steady inScope stands same before
    refine ⟨⟨now, ?_⟩, Eq.trans moved same⟩
    rw [arrived]
    rfl

/-- **All passes arrive where the first one did.** Where nothing happens around a source but what
its passes do, each one ends as the first one, with a status that is the same in everything; it
leaves the same to be found, adapters and hooks included; and it creates no adapter and no hook,
and tells people of nothing that was made. -/
theorem converge_eq : (q.converge v).1.status = (p.converge w).1.status ∧
    (q.converge v).1.result = (p.converge w).1.result ∧
    p.team.outlook gitlab (q.converge v).2 = p.team.outlook gitlab (p.converge w).2 ∧
    ∀ call ∈ q.calls v, call.isNews = false := by
  obtain ⟨⟨now, rfl⟩, same⟩ := later.restart steady inScope stands
  obtain ⟨arrived, moved⟩ := converge_again steady inScope stands same now
  refine ⟨by rw [arrived], by rw [arrived], Eq.trans moved same, ?_⟩
  -- the recorded pass follows a recorded first one, which left the same behind
  obtain ⟨answer, world⟩ := p.converge_recorded (w, [])
  have recorded : p.recorded.team.outlook (fun s => gitlab s.1) (v, []) =
      p.recorded.team.outlook (fun s => gitlab s.1) (p.recorded.converge (w, [])).2 :=
    same.trans (congrArg (p.team.outlook gitlab) world.symm)
  have quiet := (converge_again (p := p.recorded) (w := (w, [])) (steady_recorded steady) inScope
    stands recorded now).2
  rw [answer] at quiet
  have none : ((p.again now (p.converge w).1.status).calls v).countP Call.isNews = 0 := quiet.2
  intro call mem
  simpa using List.countP_eq_zero.1 none call mem

end Later

/-! ## In memory -/

open InMemory (untouched)

/-- How GitLab stands in memory. -/
noncomputable def standingInMemory (w : InMemory) : Option Standing := w.hooks.standing

open Receiver.Memory (create_of_failing create_of_working list_of_working)

section Adapters

variable {m : Receiver.Memory}

/-- What was listed has no part in what creating an adapter answers. -/
theorem create_after_list (plan : Receiver.Plan) (lists : List String) :
    (Receiver.Memory.create plan { m with lists }).1 = (Receiver.Memory.create plan m).1 := by
  obtain working | ⟨why, failing⟩ := Option.eq_none_or_eq_some m.createFailure
  · have same := create_of_working (m := { m with lists }) working plan
    rw [same, create_of_working working]
    rfl
  · have same := create_of_failing (m := { m with lists }) failing plan
    rw [same, create_of_failing failing]

/-- A new adapter is listed behind those that are there. -/
theorem within_add (namespace_ : String) (r : Receiver) :
    (m.add namespace_ r).within namespace_ = m.within namespace_ ++ [r] := by
  simp [Receiver.Memory.within, Receiver.Memory.add, List.filter_append]

end Adapters

/-- As much is known of a world in memory whose hooks are others. -/
theorem outlook_set_hooks {s : Hook.Store} {w : InMemory}
    (known : s.standing.map Standing.known = w.hooks.standing.map Standing.known) :
    InMemory.collaborators.outlook standingInMemory (InMemory.hooksPart.set s w) =
      InMemory.collaborators.outlook standingInMemory w :=
  congrArg (Outlook.mk (InMemory.collaborators.replies w)) known

theorem joins_inMemory {plan : Receiver.Plan} {w w' : InMemory} {r : Receiver}
    (run : InMemory.collaborators.receivers.create plan w = (.ok r, w')) :
    Outlook.Joins plan r (InMemory.collaborators.outlook standingInMemory w)
      (InMemory.collaborators.outlook standingInMemory w') := by
  obtain ⟨e, failed⟩ | made := InMemory.create_adapter plan w
  · rw [failed] at run
    cases run
  · rw [made] at run
    cases run
    refine ⟨by simp [Receiver.Memory.started, Receiver.isControlledBy], ?_, ⟨rfl, rfl, rfl⟩⟩
    intro receivers before
    obtain ⟨unfailing, rfl⟩ := Receiver.Memory.eq_within_of_list before
    refine ⟨w.receivers.within plan.namespace_, [], (List.append_nil _).symm, ?_⟩
    have listed := list_of_working (m := { w.receivers.add plan.namespace_
      (w.receivers.started plan) with created := plan :: w.receivers.created }) unfailing
      plan.namespace_
    exact listed.trans (congrArg Except.ok (within_add _ _))

theorem steady_standing (σ : Scope) : InMemory.collaborators.Steady
    (.fixing (InMemory.collaborators.outlook standingInMemory)) σ standingInMemory where
  same moved := moved
  sinks _ _ _ := rfl
  secrets _ _ _ := rfl
  lists namespace_ w :=
    congrArg (fun adapter : Receiver.Plan → Except Receiver.Error Receiver =>
      ({ InMemory.collaborators.outlook standingInMemory w with adapter } : Outlook))
      (funext fun plan => create_after_list plan _)
  uncreated {plan w w' e} run := by
    obtain ⟨e', failed⟩ | made := InMemory.create_adapter plan w
    · rw [failed] at run
      cases run
      rfl
    · rw [made] at run
      cases run
  created := joins_inMemory
  counters _ _ := rfl
  warnings _ _ _ := rfl
  notices _ _ := rfl
  opens token w := by
    rw [show InMemory.collaborators.hooks.client σ token w = _ from
      Hook.Store.provider_apply InMemory.hooksPart σ token w]
    exact outlook_set_hooks (Hook.Store.known_congr rfl rfl rfl rfl fun _ => rfl)
  clients run := by
    rw [Hook.Store.client_of_provider run]
    have quiet := Hook.Store.client_quiet InMemory.lawful_hooksPart
    exact {
      get := fun id w => outlook_set_hooks (quiet.get id w)
      edit := fun id options w => outlook_set_hooks (quiet.edit id options w)
      refused := fun {options w w' e} run => by
        have known := quiet.refused run
        obtain ⟨-, rfl⟩ := Prod.mk.inj run
        exact outlook_set_hooks known }
  apart := {
    opens := fun scope token w => by
      rw [show InMemory.collaborators.hooks.client scope token w = _ from
        Hook.Store.provider_apply InMemory.hooksPart scope token w]
      rfl
    clients := fun run => by
      rw [Hook.Store.client_of_provider run]
      exact ⟨fun _ _ => rfl, fun _ _ => rfl, fun _ _ _ => rfl, fun _ _ => rfl⟩ }
  serves := by
    have served : (fun w : InMemory => (standingInMemory w).bind Standing.served) =
        InMemory.gitlab := funext fun w => Hook.Store.standing_served w.hooks
    rw [served]
    exact servesHooks_inMemory σ
  refuses := Hook.Store.provider_refuses InMemory.hooksPart σ

theorem standing_untouched :
    standingInMemory untouched = some ⟨none, untouched.hooks.held⟩ := by
  have up : untouched.hooks.Up := ⟨rfl, rfl, fun _ _ => rfl⟩
  exact up.standing

/-- The first pass makes an adapter and a hook and tells people of both; the third one, at another
time, makes nothing and arrives at the same. -/
theorem third_pass_untouched : ∃ q v, Later (InMemory.passOver spoilt) untouched q v ∧
    q.now = ⟨7200⟩ ∧
    List.countP Call.isNews ((InMemory.passOver spoilt).calls untouched) = 4 ∧
    (q.converge v).1.status = ((InMemory.passOver spoilt).converge untouched).1.status ∧
    (q.converge v).1.result = ((InMemory.passOver spoilt).converge untouched).1.result ∧
    InMemory.collaborators.outlook standingInMemory (q.converge v).2 =
      InMemory.collaborators.outlook standingInMemory
        ((InMemory.passOver spoilt).converge untouched).2 ∧
    ∀ call ∈ q.calls v, call.isNews = false := by
  have third := (Later.second (p := InMemory.passOver spoilt) (w := untouched) ⟨3600⟩).next ⟨7200⟩
  refine ⟨_, _, third, rfl, by decide +kernel, ?_⟩
  exact Later.converge_eq (steady_standing InMemory.project)
    (fun scope inScope => (Except.ok.inj inScope).symm) standing_untouched third

end HookRelay.Pass

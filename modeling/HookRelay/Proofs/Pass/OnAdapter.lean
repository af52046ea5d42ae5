import HookRelay.Proofs.Pass.Throughout
import HookRelay.Proofs.Receiver.Plan

/-!
# What a pass does about its adapter

A pass asks for a new adapter once at most, and only after it has looked through the list of
adapters and found none that the source owns. Where everything else that its collaborators do keeps
to a drift, what a pass does to the world is that drift, with one adapter asked for in between at
most.

## Main definitions

* `Collaborators.Besides` : all but the platform of adapters keeps to a drift
* `Pass.OnAdapter` : what a pass does about its adapter

## Main statements

* `Pass.converge_onAdapter` : every pass does one of these
* `Pass.within_converge_of_unidentified` : a source without an identifier gets no adapter
-/

namespace HookRelay

variable {W : Type} {d : Drift W}

/-- All that a pass works with keeps to a drift, but for the platform of adapters. -/
structure Collaborators.Besides (d : Drift W) (team : Collaborators W) : Prop where
  sinks : ∀ namespace_ destination, (team.sinks.resolve namespace_ destination).Within d
  secrets : ∀ namespace_ name, (team.secrets.get namespace_ name).Within d
  notices : ∀ n, (team.notices.publish n).Within d
  counters : ∀ c, (team.count c).Within d
  provider : team.hooks.Within d

namespace Pass

variable {p : Pass W}

/-! ## Behind the adapter -/

section Besides

variable (besides : p.team.Besides d)
include besides

theorem within_judgeHook (scope : Scope) (st : Source.Status)
    (r : Except Hook.Error Hook.Outcome) : (p.judgeHook scope st r).Within d := by
  cases r with
  | ok outcome =>
    rw [judgeHook]
    split
    · exact (besides.notices _).bind fun _ => Act.within_pure _
    · exact Act.within_pure _
  | error e =>
    rw [judgeHook]
    split
    · exact (besides.notices _).bind fun _ => Act.within_pure _
    · exact Act.within_pure _

theorem within_configureHook (address access secret : String) (st : Source.Status) :
    (p.configureHook address access secret st).Within d := by
  unfold configureHook
  cases p.source.spec.scope with
  | error fault => exact Act.within_pure _
  | ok scope =>
    exact (within_syncHook (besides.provider.on scope) besides.counters _ _ _).bind fun r =>
      within_judgeHook besides scope st r

theorem within_judgeTokens (st : Source.Status) (e : Credential.Failure) :
    (p.judgeTokens st e).Within d := by
  have awaited : ∀ reason, (p.awaitTokens reason e st).Within d := fun reason =>
    (besides.notices _).bind fun _ => Act.within_pure _
  cases e with
  | secretNotFound name => exact awaited _
  | keyNotFound name key => exact awaited _
  | notText name key => exact awaited _
  | store name cause => exact Act.within_pure _

theorem within_useTokens (address : String) (st : Source.Status) :
    (p.useTokens address st).Within d := by
  refine (Credential.within_resolveAll (besides.secrets _) _ _).bind fun answer => ?_
  obtain ⟨tokens, cache⟩ := answer
  cases tokens with
  | error e => exact within_judgeTokens besides st e
  | ok tokens => exact within_configureHook besides address _ _ st

/-- **All that a pass does with an adapter is a drift.** -/
theorem within_useReceiver (st : Source.Status) (r : Receiver) :
    (p.useReceiver st r).Within d := by
  rw [useReceiver]
  split
  · exact Act.within_pure _
  · cases r.address with
    | none => exact Act.within_pure _
    | some address => exact within_useTokens besides address _

end Besides

/-! ## The adapter -/

variable (p) in
/-- **What a pass does about its adapter**, where all that it does otherwise is a drift. -/
inductive OnAdapter (d : Drift W) (w : W) : W → Prop where
  /-- No adapter is asked for. -/
  | untouched {w' : W} (moved : d.rel w w') : OnAdapter d w w'
  /-- An adapter is asked for, since none of those that were listed is owned by the source. -/
  | asked {uri : String} {plan : Receiver.Plan} {w₁ w₂ w' : W} (sink : p.SinkReached w uri w₁)
      (unowned : p.ownedReceiver w₁ = (.ok none, w₂))
      (planned : Receiver.plan p.settings p.source uri = .ok plan)
      (left : d.rel (p.team.receivers.create plan w₂).2 w') : OnAdapter d w w'

variable (besides : p.team.Besides d)
  (lists : ∀ namespace_, (p.team.receivers.list namespace_).Within d)
include besides

theorem SinkReached.drifts {uri : String} {w w₁ : W} (h : p.SinkReached w uri w₁) :
    d.rel w w₁ :=
  (besides.sinks _ _).moved h.resolved

include lists

theorem deploy_onAdapter {uri : String} {w w₁ : W} (sink : p.SinkReached w uri w₁)
    (st : Source.Status) : p.OnAdapter d w (p.deploy uri st w₁).2 := by
  have moved := sink.drifts besides
  rw [deploy, Act.bind_apply]
  rcases owned : p.ownedReceiver w₁ with ⟨found, w₂⟩
  have listed := d.trans moved ((within_ownedReceiver lists).moved owned)
  cases found with
  | error e => exact .untouched listed
  | ok found =>
    cases found with
    | some r => exact .untouched (d.trans listed (within_useReceiver besides st r w₂))
    | none =>
      dsimp only
      rw [Act.bind_apply, createReceiver]
      cases planned : Receiver.plan p.settings p.source uri with
      | error e => exact .untouched listed
      | ok plan =>
        refine .asked sink owned planned ?_
        dsimp only
        rw [Act.bind_apply]
        rcases p.team.receivers.create plan w₂ with ⟨answer, w₃⟩
        cases answer with
        | error e => exact d.refl w₃
        | ok r =>
          have told : (p.announce "ReceiveAdapterCreated"
              s!"Created receive adapter {r.name}").Within d := besides.notices _
          exact d.trans (besides.counters .adapterCreated w₃)
            (d.trans (told _) (within_useReceiver besides st r _))

/-- **A pass drifts, with one adapter asked for in between at most**, after it was missed. -/
theorem converge_onAdapter (w : W) : p.OnAdapter d w (p.converge w).2 := by
  rw [converge_apply, run]
  cases valid : check p.source with
  | error e => exact .untouched (d.refl w)
  | ok u =>
    dsimp only
    rw [provideSink, Act.bind_apply]
    rcases resolved : p.team.sinks.resolve p.namespace_ p.source.spec.sink w with ⟨answer, w₁⟩
    cases answer with
    | error e =>
      refine .untouched ?_
      dsimp only
      split <;> exact (besides.sinks _ _).moved resolved
    | ok uri => exact deploy_onAdapter besides lists ⟨valid, resolved⟩ _

/-- **A source without an identifier gets no adapter.** -/
theorem within_converge_of_unidentified (unidentified : p.source.metadata.uid = none) :
    p.converge.Within d := by
  intro w
  have onAdapter := converge_onAdapter besides lists w
  generalize (p.converge w).2 = w' at onAdapter ⊢
  cases onAdapter with
  | untouched moved => exact moved
  | asked sink unowned planned left =>
    have identified := (Receiver.plan_for planned).identified
    rw [unidentified] at identified
    cases identified

end Pass

end HookRelay

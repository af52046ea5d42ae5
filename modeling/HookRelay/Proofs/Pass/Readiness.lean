import HookRelay.Proofs.Condition.Readiness
import HookRelay.Proofs.Pass.Ends
import HookRelay.Proofs.World.InMemory

/-!
# When a pass reports a source as ready

A pass that brings a source to what it asks for reports it as ready. It does not report a source
as ready where it judged that something is missing. Two exits judge nothing: nobody could say where
the sink is, or the adapters could not be listed. There the source keeps the readiness that older
passes gave it, although the generation that is recorded is the new one.

## Main definitions

* `Accomplished` : the pass brought the source to what it asks for
* `SinkUnanswered`, `AdaptersUnlisted` : the pass broke off before it judged

## Main statements

* `converge_isReady_iff` : when a pass reports a source as ready
* `stale_readiness` : a source is reported as ready whose new generation was not looked at
-/

namespace HookRelay.Pass

open Source (judged judged_ne_ready forall_judged)

variable {W : Type} {p : Pass W} {st : Source.Status} {w : W}

/-! ## The conditions behind each judgement -/

section Judgement

variable {name other reason message : String} (mem : name ∈ judged)
include mem

theorem inStep_holds : (p.holds name st).InStep :=
  Condition.Set.inStep_mark Source.conditions_apart (judged_ne_ready mem)

theorem holding_holds_self : (p.holds name st).Holding name :=
  Condition.Set.statusOf_mark_self (judged_ne_ready mem)

theorem holding_holds_of_ne (otherMem : other ∈ judged) (ne : other ≠ name) :
    (p.holds name st).Holding other ↔ st.Holding other :=
  iff_of_eq (congrArg (· = _)
    (Condition.Set.statusOf_mark_of_ne (judged_ne_ready mem) (judged_ne_ready otherMem) ne))

/-- A source is not ready if a condition of it was judged to fail. -/
theorem not_isReady_fails : (p.fails name reason message st).isReady ≠ true := by
  have inStep : (p.fails name reason message st).InStep :=
    Condition.Set.inStep_mark Source.conditions_apart (judged_ne_ready mem)
  exact inStep.not_isReady mem (Condition.Set.statusOf_mark_self (judged_ne_ready mem))
    (show Condition.fails ≠ Condition.holds by decide)

/-- A source is not ready if a condition of it could not be told. -/
theorem not_isReady_unclear : (p.unclear name reason message st).isReady ≠ true := by
  have inStep : (p.unclear name reason message st).InStep :=
    Condition.Set.inStep_mark Source.conditions_apart (judged_ne_ready mem)
  exact inStep.not_isReady mem (Condition.Set.statusOf_mark_self (judged_ne_ready mem))
    (show Condition.unknown ≠ Condition.holds by decide)

theorem holding_complete : (p.complete st).Holding name ↔ st.Holding name :=
  Condition.Set.holds_complete_iff (judged_ne_ready mem)

end Judgement

/-! ## The statuses on the way -/

theorem inStep_complete : (p.complete st).InStep :=
  Condition.Set.inStep_complete Source.conditions_apart

theorem inStep_begun (h : st.InStep) : (p.begun st).InStep := h

theorem holding_begun {name : String} : (p.begun st).Holding name ↔ st.Holding name := Iff.rfl

theorem inStep_withSink {uri : String} : (p.withSink uri st).InStep := inStep_holds (by decide)

theorem holding_withSink {uri : String} : (p.withSink uri st).Holding Source.sinkProvided :=
  holding_holds_self (by decide)

theorem holding_withSink_of_ne {uri name : String} (mem : name ∈ judged)
    (ne : name ≠ Source.sinkProvided) : (p.withSink uri st).Holding name ↔ st.Holding name :=
  holding_holds_of_ne (by decide) mem ne

theorem holding_withAdapter {uri : String} : (p.withAdapter uri st).Holding Source.deployed :=
  holding_holds_self (by decide)

theorem holding_withAdapter_of_ne {uri name : String} (mem : name ∈ judged)
    (ne : name ≠ Source.deployed) :
    (p.withAdapter uri st).Holding name ↔ (p.withSink uri st).Holding name :=
  holding_holds_of_ne (by decide) mem ne

/-- Of a source that was only found valid, all is as older passes left it. -/
theorem isReady_begun : (p.begun (p.complete st)).isReady = true ↔
    st.Holding Source.sinkProvided ∧ st.Holding Source.deployed ∧
      st.Holding Source.webhookConfigured := by
  rw [(inStep_begun inStep_complete).isReady_iff, forall_judged]
  simp only [holding_begun]
  rw [holding_complete (by decide), holding_complete (by decide), holding_complete (by decide)]

/-- Of a source whose sink has an address, the rest is as older passes left it. -/
theorem isReady_withSink {uri : String} : (p.withSink uri (p.complete st)).isReady = true ↔
    st.Holding Source.deployed ∧ st.Holding Source.webhookConfigured := by
  rw [inStep_withSink.isReady_iff, forall_judged, and_iff_right holding_withSink]
  rw [holding_withSink_of_ne (by decide) (by decide),
    holding_withSink_of_ne (by decide) (by decide)]
  rw [holding_complete (by decide), holding_complete (by decide)]

/-- A source whose hook is as it should be is ready, whatever older passes left. -/
theorem isReady_hookSynced {uri : String} {id : Option Int} :
    (p.holds Source.webhookConfigured
      { p.withAdapter uri st with webhookId := id }).isReady = true := by
  have inStep : (p.holds Source.webhookConfigured
      { p.withAdapter uri st with webhookId := id }).InStep := inStep_holds (by decide)
  rw [inStep.isReady_iff, forall_judged]
  have sink : (p.withAdapter uri st).Holding Source.sinkProvided :=
    (holding_withAdapter_of_ne (by decide) (by decide)).2 holding_withSink
  have adapter : (p.withAdapter uri st).Holding Source.deployed := holding_withAdapter
  refine ⟨?_, ?_, holding_holds_self (by decide)⟩
  · rw [holding_holds_of_ne (by decide) (by decide) (by decide)]
    exact sink
  · rw [holding_holds_of_ne (by decide) (by decide) (by decide)]
    exact adapter

/-! ## Ready -/

/-- **The pass brought the source to what it asks for**: the specification is valid, the sink has
the address that the status says (`sinkUri`), the source has an adapter that is ready and has an
address, and the hook has the wanted fields and the number that the status says (`webhookId`). -/
inductive Accomplished (p : Pass W) (w : W) (o : Outcome) : Prop where
  | intro {uri address access secret : String} {r : Receiver} {w₃ w₄ : W} {scope : Scope}
      {outcome : Hook.Outcome} (tokens : p.HookReached w uri r address access secret w₃)
      (inScope : p.source.spec.scope = .ok scope)
      (synced : p.syncHook scope access (p.hookOptions address secret)
        p.source.statusOrBlank.webhookId w₃ = (.ok outcome, w₄))
      (sink : o.status.sinkUri = some uri) (hook : o.status.webhookId = some outcome.id)
      (result : o.result = .ok .resync)

/-- Nobody could say where the sink of the valid source is. -/
def SinkUnanswered (p : Pass W) (w : W) : Prop :=
  check p.source = .ok () ∧ ∃ e w₁,
    p.team.sinks.resolve p.namespace_ p.source.spec.sink w = (.error e, w₁) ∧ e.isTransient = true

/-- The sink of the valid source has an address, and the adapters could not be listed. -/
def AdaptersUnlisted (p : Pass W) (w : W) : Prop :=
  ∃ uri w₁ e w₂, p.SinkReached w uri w₁ ∧ p.ownedReceiver w₁ = (.error e, w₂)

/-- The generation that is recorded has no part in whether a source is ready. -/
theorem isReady_converge (p : Pass W) (w : W) : (p.converge w).1.status.isReady =
    (p.run (p.complete p.source.statusOrBlank) w).1.status.isReady := rfl

/-- A source that is reported as ready was brought to what it asks for, or not judged. -/
theorem Ends.accomplished_or_unjudged {o : Outcome} {w' : W}
    (h : p.Ends (p.complete p.source.statusOrBlank) w o w') (ready : o.status.isReady = true) :
    p.Accomplished w o ∨
    (p.SinkUnanswered w ∧ p.source.statusOrBlank.Holding Source.sinkProvided ∧
      p.source.statusOrBlank.Holding Source.deployed ∧
      p.source.statusOrBlank.Holding Source.webhookConfigured) ∨
    (p.AdaptersUnlisted w ∧ p.source.statusOrBlank.Holding Source.deployed ∧
      p.source.statusOrBlank.Holding Source.webhookConfigured) := by
  cases h with
  | hookSynced tokens inScope synced => exact .inl (.intro tokens inScope synced rfl rfl rfl)
  | sinkUnanswered valid resolved transient =>
    exact .inr (.inl ⟨⟨valid, _, _, resolved, transient⟩, isReady_begun.1 ready⟩)
  | adaptersUnlisted sink unlisted =>
    exact .inr (.inr ⟨⟨_, _, _, _, sink, unlisted⟩, isReady_withSink.1 ready⟩)
  -- every other exit judges a condition not to hold
  | invalid | sinkRefused | adapterUncreated | adapterUnready | tokensAwaited | tokensUnread
  | hookDenied | hookFailed => exact absurd ready (not_isReady_fails (by decide))
  | adapterUnaddressed => exact absurd ready (not_isReady_unclear (by decide))

/-- **When a pass reports a source as ready**: if it brought it to what it asks for, or if it broke
off before it judged what older passes had judged to hold. The generation that it records is that
of the source in any case. -/
theorem converge_isReady_iff (p : Pass W) (w : W) :
    (p.converge w).1.status.observedGeneration = p.source.metadata.generation ∧
    ((p.converge w).1.status.isReady = true ↔
      p.Accomplished w (p.converge w).1 ∨
      (p.SinkUnanswered w ∧ p.source.statusOrBlank.Holding Source.sinkProvided ∧
        p.source.statusOrBlank.Holding Source.deployed ∧
        p.source.statusOrBlank.Holding Source.webhookConfigured) ∨
      (p.AdaptersUnlisted w ∧ p.source.statusOrBlank.Holding Source.deployed ∧
        p.source.statusOrBlank.Holding Source.webhookConfigured)) := by
  refine ⟨rfl, ?_⟩
  rw [isReady_converge]
  constructor
  · intro ready
    have ends := run_ends p (p.complete p.source.statusOrBlank) w
    refine (ends.accomplished_or_unjudged ready).imp_left ?_
    rintro ⟨tokens, inScope, synced, sink, hook, result⟩
    exact ⟨tokens, inScope, synced, sink, hook, result⟩
  · rintro (⟨tokens, inScope, synced, -, -, -⟩ | ⟨⟨valid, e, w₁, resolved, transient⟩, held⟩ |
      ⟨⟨uri, w₁, e, w₂, sink, unlisted⟩, held⟩)
    -- the answers lead to one exit only, and there the conditions can be read off
    · have ends : p.Ends (p.complete p.source.statusOrBlank) w _ _ :=
        .hookSynced tokens inScope synced
      rw [ends.run_eq]
      exact isReady_hookSynced
    · rw [(Ends.sinkUnanswered valid resolved transient).run_eq]
      exact isReady_begun.2 held
    · rw [(Ends.adaptersUnlisted sink unlisted).run_eq]
      exact isReady_withSink.2 held

/-- A pass that ends well with a ready source brought it to what it asks for. -/
theorem accomplished_of_ok {requeue : Requeue} (done : (p.converge w).1.result = .ok requeue)
    (ready : (p.converge w).1.status.isReady = true) : p.Accomplished w (p.converge w).1 := by
  obtain accomplished | ⟨⟨valid, e, w₁, resolved, transient⟩, -⟩ |
    ⟨⟨uri, w₁, e, w₂, sink, unlisted⟩, -⟩ := (converge_isReady_iff p w).2.1 ready
  · exact accomplished
  -- a pass that broke off did not end well
  · rw [converge_apply, (Ends.sinkUnanswered valid resolved transient).run_eq] at done
    cases done
  · rw [converge_apply, (Ends.adaptersUnlisted sink unlisted).run_eq] at done
    cases done

/-! ### In memory -/

/-- The source behind a first pass, with another `generation` of what it asks for. -/
def nextGeneration : Source :=
  { InMemory.source with
    metadata := { InMemory.source.metadata with generation := some 2 }
    spec := { InMemory.source.spec with sslVerify := false }
    status := some ((InMemory.passOver InMemory.source).converge InMemory.ready).1.status }

/-- The world behind a first pass, once the cluster does not answer where sinks are. -/
def cutOff : InMemory :=
  { ((InMemory.passOver InMemory.source).converge InMemory.ready).2 with sinks := ⟨.cutOff, []⟩ }

/-- **A readiness that is stale**: the second pass did not get to the sink, and reports the source
as ready in its new generation. -/
theorem stale_readiness :
    ((InMemory.passOver nextGeneration).converge cutOff).1.status.isReady = true ∧
    ((InMemory.passOver nextGeneration).converge cutOff).1.status.observedGeneration = some 2 ∧
    ¬ (InMemory.passOver nextGeneration).Accomplished cutOff
      ((InMemory.passOver nextGeneration).converge cutOff).1 := by
  refine ⟨by decide +kernel, rfl, ?_⟩
  rintro ⟨-, -, -, -, -, result⟩
  cases result

end HookRelay.Pass

import HookRelay.Proofs.Condition.Untouched
import HookRelay.Proofs.Pass.History
import HookRelay.Proofs.Pass.InOrder

/-!
# What a pass leaves alone

A pass that breaks off judges what it found out, and no more: all conditions that it did not get to
are as older passes left them, down to their times. How far it got is told by its record. The sink
is judged once it is known whether it has an address, the adapter once all adapters are listed, and
the hook once the adapter is ready, or if the source is not valid.

One adapter is judged without a list. A source without an identifier can own none, so that none are
listed; there is no plan for one either, and that is said of the adapter.

## Main definitions

* `Judges` : how far a pass must get to judge a condition
* `Framed` : all else is as it was

## Main statements

* `Ends.framed` : whatever exit a pass takes, all that it did not judge is as it was
* `converge_inOrder_framed` : what a pass asks, in which order, and what it leaves alone
* `deployed_unlisted` : an adapter is judged although none were listed
-/

namespace HookRelay.Pass

open Condition (Finding named)
open Source (judged judged_ne_ready)

variable {W : Type} (p : Pass W)

/-- **How far a pass must get to judge a condition**, told by what it was answered: `SinkProvided`
takes an answer about the sink, `Deployed` one about adapters, and `WebhookConfigured` an adapter
that is ready, unless the source is not valid. -/
inductive Judges (log : List Call) : String → Prop where
  /-- The source is valid, and it is known whether the sink has an address. -/
  | sink {answer : Except Sink.Error String} (valid : check p.source = .ok ())
      (answered : .resolveSink p.namespace_ p.source.spec.sink answer ∈ log)
      (final : ∀ e, answer = .error e → e.isTransient = false) : Judges log Source.sinkProvided
  /-- The sink has an address, and all adapters are listed. -/
  | adapter {uri : String} {receivers : List Receiver} (valid : check p.source = .ok ())
      (found : .resolveSink p.namespace_ p.source.spec.sink (.ok uri) ∈ log)
      (listed : .listAdapters p.namespace_ (.ok receivers) ∈ log) : Judges log Source.deployed
  /-- The sink has an address, and the source can own no adapter, so that none are listed. -/
  | unidentified {uri : String} (valid : check p.source = .ok ())
      (found : .resolveSink p.namespace_ p.source.spec.sink (.ok uri) ∈ log)
      (unidentified : p.source.metadata.uid = none) : Judges log Source.deployed
  /-- The source is not valid. -/
  | invalid {e : Source.Invalidity} (broken : check p.source = .error e) :
      Judges log Source.webhookConfigured
  /-- The adapter is ready. -/
  | hook {r : Receiver} (owns : p.Owns log r) (ready : r.ready = true) :
      Judges log Source.webhookConfigured

/-- **All that was not judged is as it was**: the conditions, and the `sinkUri`, which changes only
where the sink is judged, and goes with the judgement. -/
structure Framed (log : List Call) (st st' : Source.Status) : Prop where
  conditions : ∀ name, name ≠ Source.ready →
    p.Judges log name ∨ named name st'.conditions = named name st.conditions
  sink : st'.sinkUri = st.sinkUri ∨ p.Judges log Source.sinkProvided ∧
    (st'.Holding Source.sinkProvided ↔ st'.sinkUri.isSome)

variable {p} {st st' : Source.Status} {log : List Call} {name : String} {f : Finding}

theorem named_judges_of_ne {other : String} (ne : other ≠ name) (notReady : other ≠ Source.ready) :
    named other (p.judges name f st).conditions = named other st.conditions :=
  Condition.Set.named_mark_of_ne ne notReady

theorem framed_refl : p.Framed log st st := ⟨fun _ _ => .inr rfl, .inl rfl⟩

/-- What a pass got far enough to judge, it may judge. -/
theorem Framed.judges (h : p.Framed log st st') (mem : name ∈ judged)
    (ne : Source.sinkProvided ≠ name) (far : p.Judges log name) :
    p.Framed log st (p.judges name f st') where
  conditions other notReady := by
    by_cases same : other = name
    · exact .inl (same ▸ far)
    · refine (h.conditions other notReady).imp_right fun as => ?_
      exact (named_judges_of_ne same notReady).trans as
  sink := by
    refine h.sink.imp_right fun ⟨sinkFar, goes⟩ => ⟨sinkFar, ?_⟩
    rw [holding_judges_of_ne mem (by decide) ne]
    exact goes

theorem framed_judges_sink {uri : Option String} (far : p.Judges log Source.sinkProvided)
    (goes : f.status = Condition.holds ↔ uri.isSome) :
    p.Framed log st (p.judges Source.sinkProvided f { p.begun st with sinkUri := uri }) where
  conditions other notReady := by
    by_cases same : other = Source.sinkProvided
    · exact .inl (same ▸ far)
    · exact .inr (named_judges_of_ne same notReady)
  sink := .inr ⟨far, (holding_judges_self (by decide)).trans goes⟩

theorem framed_withSink {uri : String} (far : p.Judges log Source.sinkProvided) :
    p.Framed log st (p.withSink uri st) :=
  framed_judges_sink far (iff_of_true rfl rfl)

theorem framed_withAdapter {uri : String} (sink : p.Judges log Source.sinkProvided)
    (adapter : p.Judges log Source.deployed) : p.Framed log st (p.withAdapter uri st) :=
  (framed_withSink sink).judges (by decide) (by decide) adapter

/-! ## How far the stages get -/

variable {w : W} {s₁ s₂ s₃ s' : W × List Call} {uri : String} {r : Receiver}

theorem SinkReached.mem (h : p.recorded.SinkReached (w, []) uri s₁) :
    .resolveSink p.namespace_ p.source.spec.sink (.ok uri) ∈ s₁.2 := by
  simp [h.logged.1]

/-- Where the sink has an address, a pass judges it. -/
theorem SinkReached.judges (h : p.recorded.SinkReached (w, []) uri s₁) (grown : s₁.2 ⊆ log) :
    p.Judges log Source.sinkProvided :=
  .sink h.valid (grown h.mem) nofun

/-- What a pass judges once it has the adapter. -/
structure JudgesAdapter (p : Pass W) (r : Receiver) (log : List Call) : Prop where
  sink : p.Judges log Source.sinkProvided
  adapter : p.Judges log Source.deployed
  hook : r.ready = true → p.Judges log Source.webhookConfigured

theorem AdapterReached.judges (h : p.recorded.AdapterReached (w, []) uri r s₂)
    (grown : s₂.2 ⊆ log) : p.JudgesAdapter r log := by
  have logged := h.logged
  obtain ⟨s₁, sink, -⟩ := h
  obtain ⟨receivers, listed⟩ := logged.listed
  exact ⟨.sink sink.valid (grown logged.sink) nofun,
    .adapter sink.valid (grown logged.sink) (grown listed), .hook (logged.owns.mono grown)⟩

theorem HookReached.judges {address access secret : String}
    (h : p.recorded.HookReached (w, []) uri r address access secret s₃) (grown : s₃.2 ⊆ log) :
    p.JudgesAdapter r log := by
  obtain ⟨s₂, cache, adapter, tokens⟩ := h
  obtain ⟨read, -⟩ := adapter.inOrder_tokens tokens
  exact adapter.adapter.judges (List.Subset.trans read grown)

theorem HookReached.ready {w w₃ : W} {address access secret : String}
    (h : p.HookReached w uri r address access secret w₃) : r.ready = true := by
  obtain ⟨w₂, cache, adapter, tokens⟩ := h
  exact adapter.ready

/-- Once the adapter is ready, the hook may be judged. -/
theorem JudgesAdapter.framed (h : p.JudgesAdapter r log) (ready : r.ready = true) {uri : String}
    (id : Option Int) : p.Framed log st
      (p.judges Source.webhookConfigured f { p.withAdapter uri st with webhookId := id }) := by
  have before : p.Framed log st (p.withAdapter uri st) := framed_withAdapter h.sink h.adapter
  have framed : p.Framed log st { p.withAdapter uri st with webhookId := id } :=
    ⟨before.conditions, before.sink⟩
  exact framed.judges (by decide) (by decide) (h.hook ready)

/-- **Whatever exit a pass takes, all that it did not judge is as it was.** -/
theorem Ends.framed {o : Outcome} (h : p.recorded.Ends st (w, []) o s')
    (recorded : st.webhookId = p.source.statusOrBlank.webhookId) :
    p.Framed s'.2 st o.status := by
  cases h with
  | invalid broken => exact framed_refl.judges (by decide) (by decide) (.invalid broken)
  | sinkUnanswered valid resolved transient => exact ⟨fun _ _ => .inr rfl, .inl rfl⟩
  | @sinkRefused e _ valid resolved lasting =>
    have answered : .resolveSink p.namespace_ p.source.spec.sink (.error e) ∈ s'.2 := by
      simp [(logged_sink (p := p) valid resolved).1]
    refine framed_judges_sink (.sink valid answered fun e' same => ?_)
      (iff_of_false (show Condition.fails ≠ Condition.holds by decide) nofun)
    rwa [← Except.error.inj same]
  | adaptersUnlisted sink unlisted =>
    exact framed_withSink (sink.judges (inOrder_owned sink unlisted).1)
  | adapterUncreated sink unowned failed =>
    obtain ⟨looked, -⟩ := inOrder_owned sink unowned
    obtain ⟨tried, -⟩ := inOrder_created sink unowned failed
    have grown := List.Subset.trans looked tried
    refine (framed_withSink (sink.judges grown)).judges (by decide) (by decide) ?_
    obtain unidentified | ⟨uid, receivers, none⟩ := unowned_logged sink unowned
    · exact .unidentified sink.valid (grown sink.mem) unidentified
    · have listed : .listAdapters p.namespace_ (.ok receivers) ∈ s'.2 :=
        tried (by simp [none.log])
      exact .adapter sink.valid (grown sink.mem) listed
  | adapterUnready adapter unready =>
    have far := adapter.judges (List.Subset.refl _)
    exact (framed_withSink far.sink).judges (by decide) (by decide) far.adapter
  | adapterUnaddressed adapter ready unaddressed =>
    exact (adapter.judges (List.Subset.refl _)).framed ready _
  | tokensAwaited adapter unavailable fault =>
    obtain ⟨read, -⟩ := adapter.inOrder_tokens unavailable
    refine JudgesAdapter.framed (adapter.adapter.judges ?_) adapter.ready _
    exact List.Subset.trans read (warn_orderly _ _ _).1
  | tokensUnread adapter unavailable unread =>
    exact (adapter.adapter.judges (adapter.inOrder_tokens unavailable).1).framed adapter.ready _
  | hookSynced tokens inScope synced =>
    obtain ⟨written, -⟩ := tokens.inOrder_syncHook inScope recorded synced
    refine (tokens.judges ?_).framed tokens.ready _
    exact List.Subset.trans written (proclaim_orderly _ _ _).1
  | hookDenied tokens inScope failed denied =>
    obtain ⟨tried, -⟩ := tokens.inOrder_syncHook inScope recorded failed
    refine (tokens.judges ?_).framed tokens.ready _
    exact List.Subset.trans tried (warn_orderly _ _ _).1
  | hookFailed tokens inScope failed undenied =>
    obtain ⟨tried, -⟩ := tokens.inOrder_syncHook inScope recorded failed
    exact (tokens.judges tried).framed tokens.ready _

/-- A source that has an adapter can own one. -/
theorem AdapterReached.identified {w₂ : W} (h : p.AdapterReached w uri r w₂) :
    p.source.metadata.uid ≠ none := by
  intro unidentified
  obtain ⟨w₁, -, obtained⟩ := h
  cases obtained with
  | found owned =>
    rw [ownedReceiver, unidentified] at owned
    cases owned
  | created unowned made =>
    obtain ⟨plan, -, planned, -⟩ := createReceiver_ok made
    rw [plan_of_none unidentified] at planned
    cases planned

/-- A source that can own no adapter gets none, for there is no plan for it. -/
theorem Ends.unidentified {o : Outcome} (h : p.recorded.Ends st (w, []) o s')
    (unidentified : p.source.metadata.uid = none)
    (found : .resolveSink p.namespace_ p.source.spec.sink (.ok uri) ∈ s'.2) :
    o.result = .error (.receiver .noUid) := by
  cases h with
  | invalid broken => cases found
  | sinkUnanswered valid resolved transient =>
    simp [(logged_sink (p := p) valid resolved).1] at found
  | sinkRefused valid resolved lasting =>
    simp [(logged_sink (p := p) valid resolved).1] at found
  | adaptersUnlisted sink unlisted =>
    obtain ⟨-, none, -⟩ | ⟨uid, -, identified, -⟩ := logged_owned unlisted
    · cases none
    · rw [unidentified] at identified
      cases identified
  | adapterUncreated sink unowned failed =>
    obtain ⟨-, e, planned, same⟩ | ⟨plan, -, planned, -⟩ := logged_created failed
    · rw [plan_of_none unidentified] at planned
      cases planned
      cases same
      rfl
    · rw [plan_of_none unidentified] at planned
      cases planned
  | adapterUnready adapter unready => exact absurd unidentified adapter.identified
  | adapterUnaddressed adapter ready unaddressed => exact absurd unidentified adapter.identified
  | tokensAwaited adapter unavailable fault => exact absurd unidentified adapter.adapter.identified
  | tokensUnread adapter unavailable unread => exact absurd unidentified adapter.adapter.identified
  | hookSynced tokens | hookDenied tokens | hookFailed tokens =>
    obtain ⟨s₂, cache, adapter, -⟩ := tokens
    exact absurd unidentified adapter.adapter.identified

/-! ## The whole pass -/

/-- **A pass takes its steps in order, and leaves alone what it does not get to.** Every call of its
record was due where it stands. All conditions of a name but readiness are as they were, where
missing ones are added as unknown, or the pass got far enough to judge them; the address of the sink
is as it was, or changed as the sink was judged. If the source can own no adapter, the pass ends
where it should create one. -/
theorem converge_inOrder_framed (p : Pass W) (w : W) :
    p.InOrder (p.calls w) ∧
    (∀ name, name ≠ Source.ready → p.Judges (p.calls w) name ∨
      Source.conditions.Leaves p.now name p.source.statusOrBlank.conditions
        (p.converge w).1.status.conditions) ∧
    ((p.converge w).1.status.sinkUri = p.source.statusOrBlank.sinkUri ∨
      p.Judges (p.calls w) Source.sinkProvided ∧
        ((p.converge w).1.status.Holding Source.sinkProvided ↔
          (p.converge w).1.status.sinkUri.isSome)) ∧
    (p.source.metadata.uid = none →
      (∃ uri, .resolveSink p.namespace_ p.source.spec.sink (.ok uri) ∈ p.calls w) →
      (p.converge w).1.result = .error (.receiver .noUid)) := by
  have ends := run_ends p.recorded (p.complete p.source.statusOrBlank) (w, [])
  obtain ⟨same, -⟩ := p.converge_recorded (w, [])
  have framed := ends.framed rfl
  rw [← same]
  refine ⟨ends.inOrder rfl, fun name notReady => ?_, framed.sink, fun unidentified ⟨uri, found⟩ =>
    ends.unidentified unidentified found⟩
  refine (framed.conditions name notReady).imp_right fun as => ?_
  exact (Condition.Set.leaves_complete notReady).congr as

/-! ### In memory -/

/-- The source in memory without a `uid`. -/
def unidentified : Source :=
  { InMemory.source with metadata := { InMemory.source.metadata with uid := none } }

/-- **An adapter is judged although none were listed**: the source can own none, and that is said of
its adapter, where nothing was said before. -/
theorem deployed_unlisted :
    (∀ namespace_ answer, Call.listAdapters namespace_ answer ∉
      (InMemory.passOver unidentified).calls InMemory.untouched) ∧
    (named Source.deployed ((InMemory.passOver unidentified).converge
      InMemory.untouched).1.status.conditions).map Condition.status = [Condition.fails] ∧
    ¬ Source.conditions.Leaves ⟨0⟩ Source.deployed unidentified.statusOrBlank.conditions
      ((InMemory.passOver unidentified).converge InMemory.untouched).1.status.conditions := by
  have failed : (named Source.deployed ((InMemory.passOver unidentified).converge
      InMemory.untouched).1.status.conditions).map Condition.status = [Condition.fails] := by
    decide +kernel
  refine ⟨fun namespace_ answer listed => ?_, failed, fun leaves => ?_⟩
  · have calls : (InMemory.passOver unidentified).calls InMemory.untouched =
        [.resolveSink "team" InMemory.source.spec.sink
          (InMemory.collaborators.sinks.resolve "team" InMemory.source.spec.sink
            InMemory.untouched).1] := rfl
    rw [calls] at listed
    simp at listed
  · cases leaves with
    | same same =>
      rw [same] at failed
      cases failed
    | added declared missing unknown =>
      rw [unknown] at failed
      revert failed
      decide

end HookRelay.Pass

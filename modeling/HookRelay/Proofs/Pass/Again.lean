import HookRelay.Proofs.Condition.Settled
import HookRelay.Proofs.Pass.Readiness
import HookRelay.Proofs.Pass.Steady

/-!
# The next pass arrives at the same status

A pass over a source with steady collaborators finds what the pass before it found, or made. It
takes other ways, for it finds the adapter and writes the hook that the other one created, and it
judges by another clock. It takes the same exit all the same; and what it judges there is what the
status shows already, so that nothing in it changes, down to the times of its conditions.

## Main definitions

* `Status.Settled`, `Status.Shows`, `Status.Alike` : what there is to a status beside its generation
* `SinkNoted`, `AdapterNoted` : what a status shows of a source that got so far

## Main statements

* `judges_withSink_again`, `judges_recorded_again` : judging the same again changes nothing
* `Ends.again` : the next pass ends by the exit of the one before
* `converge_again` : the next pass arrives where the one before did
-/

namespace HookRelay

open Condition (Finding findingOf)

/-! ## Statuses that say it already -/

namespace Source.Status

/-- Nothing is missing, out of order or out of step in the conditions. -/
def Settled (st : Status) : Prop := Source.conditions.Settled st.conditions

/-- What a status shows of a condition. -/
def Shows (name : String) (f : Finding) (st : Status) : Prop :=
  findingOf name st.conditions = some f

/-- Two statuses that differ in the `observedGeneration` at most. -/
structure Alike (st st' : Status) : Prop where
  conditions : st'.conditions = st.conditions
  attributes : st'.attributes = st.attributes
  sinkUri : st'.sinkUri = st.sinkUri
  webhookId : st'.webhookId = st.webhookId

variable {st st' : Status}

theorem Alike.settled (alike : st.Alike st') (settled : st.Settled) : st'.Settled := by
  rw [Settled, alike.conditions]
  exact settled

theorem Alike.shows (alike : st.Alike st') {name : String} {f : Finding} (shown : st.Shows name f) :
    st'.Shows name f := by
  rw [Shows, alike.conditions]
  exact shown

end Source.Status

namespace Pass

open Source (judged judged_ne_ready)

variable {W : Type} {p : Pass W} {st : Source.Status} {name other : String} {f g : Finding}

/-- Judges a condition. -/
def judges (p : Pass W) (name : String) (f : Finding) : Source.Status → Source.Status :=
  conditions (Source.conditions.mark p.now name f)

/-- The finding that a condition holds. -/
def holding : Finding := ⟨Condition.holds, none, none⟩

theorem settled_complete (st : Source.Status) : (p.complete st).Settled :=
  Condition.Set.settled_complete Source.conditions_apart

theorem complete_eq (settled : st.Settled) : p.complete st = st := by
  rw [complete, conditions, settled.complete_eq]

theorem judged_mem_names (mem : name ∈ judged) : name ∈ Source.conditions.names := by
  revert mem
  simp only [judged, List.mem_cons, List.not_mem_nil, or_false]
  rintro (rfl | rfl | rfl) <;> decide

section Judges

variable (mem : name ∈ judged)
include mem

theorem settled_judges (settled : st.Settled) : (p.judges name f st).Settled :=
  settled.mark Source.conditions_apart (judged_mem_names mem) (judged_ne_ready mem)

theorem shows_judges_self : (p.judges name f st).Shows name f :=
  Condition.Set.findingOf_mark_self (judged_ne_ready mem)

theorem shows_judges_of_ne (otherMem : other ∈ judged) (ne : other ≠ name)
    (shown : st.Shows other g) : (p.judges name f st).Shows other g :=
  (Condition.Set.findingOf_mark_of_ne (judged_ne_ready mem) (judged_ne_ready otherMem) ne).trans
    shown

omit mem in
/-- Judging again what is said already changes nothing. -/
theorem judges_eq (settled : st.Settled) (shown : st.Shows name f) : p.judges name f st = st := by
  rw [judges, conditions, settled.mark_eq shown]

end Judges

/-- What a status says of a source whose sink has an address: `sinkUri`, `ceAttributes` and
`SinkProvided`. -/
structure SinkNoted (attributes : List EventAttributes) (uri : String) (st : Source.Status) :
    Prop where
  settled : st.Settled
  attributes : st.attributes = attributes
  sinkUri : st.sinkUri = some uri
  provided : st.Shows Source.sinkProvided holding

/-- What a status says of a source whose adapter is ready as well: `Deployed` holds. -/
structure AdapterNoted (attributes : List EventAttributes) (uri : String) (st : Source.Status) :
    Prop extends SinkNoted attributes uri st where
  deployed : st.Shows Source.deployed holding

variable {attributes_ : List EventAttributes} {uri : String} {st' : Source.Status}

theorem SinkNoted.of_alike (h : SinkNoted attributes_ uri st) (alike : st.Alike st') :
    SinkNoted attributes_ uri st' :=
  ⟨alike.settled h.settled, alike.attributes.trans h.attributes, alike.sinkUri.trans h.sinkUri,
    alike.shows h.provided⟩

theorem AdapterNoted.of_alike (h : AdapterNoted attributes_ uri st) (alike : st.Alike st') :
    AdapterNoted attributes_ uri st' :=
  ⟨h.toSinkNoted.of_alike alike, alike.shows h.deployed⟩

/-- Which hook is recorded does not matter here. -/
theorem AdapterNoted.of_hook (h : AdapterNoted attributes_ uri st) (id : Option Int) :
    AdapterNoted attributes_ uri { st with webhookId := id } :=
  ⟨⟨h.settled, h.attributes, h.sinkUri, h.provided⟩, h.deployed⟩

theorem begun_eq (noted : st.attributes = attributes p.source) : p.begun st = st := by
  rw [begun, ← noted]

theorem sinkNoted_withSink (settled : st.Settled) :
    SinkNoted (attributes p.source) uri (p.withSink uri st) :=
  ⟨settled_judges (by decide) settled, rfl, rfl, shows_judges_self (by decide)⟩

theorem SinkNoted.judges (h : SinkNoted attributes_ uri st) (mem : name ∈ judged)
    (ne : Source.sinkProvided ≠ name) : SinkNoted attributes_ uri (p.judges name f st) :=
  ⟨settled_judges mem h.settled, h.attributes, h.sinkUri,
    shows_judges_of_ne mem (by decide) ne h.provided⟩

theorem SinkNoted.withSink_eq (h : SinkNoted (Pass.attributes p.source) uri st) :
    p.withSink uri st = st := by
  have noted : ({ p.begun st with sinkUri := some uri } : Source.Status) = st := by
    rw [begun_eq h.attributes, ← h.sinkUri]
  rw [withSink, noted]
  exact judges_eq h.settled h.provided

theorem adapterNoted_withAdapter (settled : st.Settled) :
    AdapterNoted (attributes p.source) uri (p.withAdapter uri st) :=
  ⟨(sinkNoted_withSink settled).judges (by decide) (by decide), shows_judges_self (by decide)⟩

/-- What is said of the hook does not matter either. -/
theorem AdapterNoted.judges (h : AdapterNoted attributes_ uri st) :
    AdapterNoted attributes_ uri (p.judges Source.webhookConfigured f st) :=
  ⟨h.toSinkNoted.judges (by decide) (by decide),
    shows_judges_of_ne (by decide) (by decide) (by decide) h.deployed⟩

theorem AdapterNoted.withAdapter_eq (h : AdapterNoted (attributes p.source) uri st) :
    p.withAdapter uri st = st := by
  rw [withAdapter, h.withSink_eq]
  exact judges_eq h.settled h.deployed

/-! ## Judging the same again -/

section Again

variable {q : Pass W} (ours : attributes q.source = attributes p.source) {id : Option Int}

theorem judges_again (mem : name ∈ judged)
    (alike : (p.judges name f (p.complete st)).Alike st') : q.judges name f st' = st' :=
  judges_eq (alike.settled (settled_judges mem (settled_complete st)))
    (alike.shows (shows_judges_self mem))

include ours

/-- What a pass judges of a source whose sink has no address. -/
theorem judges_begun_again
    (alike : (p.judges Source.sinkProvided f
      { p.begun (p.complete st) with sinkUri := none }).Alike st') :
    q.judges Source.sinkProvided f { q.begun st' with sinkUri := none } = st' := by
  have noted : st'.attributes = attributes q.source := alike.attributes.trans ours.symm
  have unset : st'.sinkUri = none := alike.sinkUri
  have same : ({ q.begun st' with sinkUri := none } : Source.Status) = st' := by
    rw [begun_eq noted, ← unset]
  rw [same]
  exact judges_eq (alike.settled (settled_judges (by decide) (settled_complete st)))
    (alike.shows (shows_judges_self (by decide)))

theorem withSink_again (alike : (p.withSink uri (p.complete st)).Alike st') :
    q.withSink uri st' = st' := by
  have noted := (sinkNoted_withSink (settled_complete st)).of_alike alike
  rw [← ours] at noted
  exact noted.withSink_eq

/-- What a pass judges of a source whose sink has an address. -/
theorem judges_withSink_again
    (alike : (p.judges Source.deployed f (p.withSink uri (p.complete st))).Alike st') :
    q.judges Source.deployed f (q.withSink uri st') = st' := by
  have reached : SinkNoted (attributes p.source) uri (p.withSink uri (p.complete st)) :=
    sinkNoted_withSink (settled_complete st)
  have noted := (reached.judges (by decide) (by decide)).of_alike alike
  rw [← ours] at noted
  rw [noted.withSink_eq]
  exact judges_eq noted.settled (alike.shows (shows_judges_self (by decide)))

/-- What a pass judges of a source whose adapter is ready. -/
theorem judges_withAdapter_again
    (alike : (p.judges Source.webhookConfigured f (p.withAdapter uri (p.complete st))).Alike st') :
    q.judges Source.webhookConfigured f (q.withAdapter uri st') = st' := by
  have reached : AdapterNoted (attributes p.source) uri (p.withAdapter uri (p.complete st)) :=
    adapterNoted_withAdapter (settled_complete st)
  have noted := reached.judges.of_alike alike
  rw [← ours] at noted
  rw [noted.withAdapter_eq]
  exact judges_eq noted.settled (alike.shows (shows_judges_self (by decide)))

/-- What a pass judges of a source whose hook it records. -/
theorem judges_recorded_again
    (alike : (p.judges Source.webhookConfigured f
      { p.withAdapter uri (p.complete st) with webhookId := id }).Alike st') :
    q.judges Source.webhookConfigured f { q.withAdapter uri st' with webhookId := id } = st' := by
  have reached : AdapterNoted (attributes p.source) uri
      { p.withAdapter uri (p.complete st) with webhookId := id } :=
    (adapterNoted_withAdapter (settled_complete st)).of_hook id
  have noted := reached.judges.of_alike alike
  rw [← ours] at noted
  have recorded : st'.webhookId = id := alike.webhookId
  have same : ({ q.withAdapter uri st' with webhookId := id } : Source.Status) = st' := by
    rw [noted.withAdapter_eq, ← recorded]
  rw [same]
  exact judges_eq noted.settled (alike.shows (shows_judges_self (by decide)))

end Again

/-! ## The next pass -/

variable {w w' v : W} {o : Outcome}

/-- Whatever exit a pass takes, the conditions of its status are settled. -/
theorem Ends.settled (h : p.Ends (p.complete st) w o w') : o.status.Settled := by
  have sink : ∀ uri, SinkNoted (attributes p.source) uri (p.withSink uri (p.complete st)) :=
    fun _ => sinkNoted_withSink (settled_complete st)
  have adapter : ∀ uri,
      AdapterNoted (attributes p.source) uri (p.withAdapter uri (p.complete st)) :=
    fun _ => adapterNoted_withAdapter (settled_complete st)
  cases h with
  | invalid broken => exact settled_judges (by decide) (settled_complete st)
  | sinkUnanswered valid resolved transient => exact settled_complete st
  | sinkRefused valid resolved lasting => exact settled_judges (by decide) (settled_complete st)
  | adaptersUnlisted reached unlisted => exact (sink _).settled
  | adapterUncreated reached unowned failed => exact settled_judges (by decide) (sink _).settled
  | adapterUnready reached unready => exact settled_judges (by decide) (sink _).settled
  | adapterUnaddressed reached ready unaddressed => exact (adapter _).judges.settled
  | tokensAwaited reached unavailable fault => exact (adapter _).judges.settled
  | tokensUnread reached unavailable unread => exact (adapter _).judges.settled
  | hookSynced tokens inScope synced => exact ((adapter _).of_hook _).judges.settled
  | hookDenied tokens inScope failed denied => exact (adapter _).judges.settled
  | hookFailed tokens inScope failed undenied => exact (adapter _).judges.settled

theorem Ends.ending {final : Source.Status} {result : Except Error Requeue}
    (h : p.Ends st w ⟨final, result⟩ w') (same : final = st') :
    p.Ends st w ⟨st', result⟩ w' := by
  rw [← same]
  exact h

section Steady

open Hook (Standing)

variable {d : Drift W} {σ : Scope} {gitlab : W → Option Standing} {standing : Standing}
  (steady : p.team.Steady d σ gitlab)
  (inScope : ∀ scope, p.source.spec.scope = .ok scope → scope = σ)
  (stands : gitlab w = some standing)
include steady inScope stands

theorem Ends.again (h : p.Ends (p.complete st) w o w')
    (same : p.team.outlook gitlab v = p.team.outlook gitlab w') (now : Time.Instant)
    (alike : o.status.Alike st') :
    ∃ v', (p.again now st').Ends st' v ⟨st', o.result⟩ v' ∧ d.rel v v' := by
  have replies : p.team.replies v = p.team.replies w' := congrArg Outlook.toReplies same
  have ours : attributes (p.again now st').source = attributes p.source := rfl
  cases h with
  | invalid broken =>
    exact ⟨v, .ending (.invalid broken) (judges_again (by decide) alike), d.refl v⟩
  | sinkUnanswered valid resolved transient =>
    have found := steady.replies ((steady.sinks _ _).moved resolved)
    obtain ⟨v', resolved, moved⟩ :=
      resolve_again steady resolved (congrArg Replies.sink (replies.trans found))
    have unchanged := begun_eq (p := p.again now st') alike.attributes
    exact ⟨v', .ending (.sinkUnanswered valid resolved transient) unchanged, moved⟩
  | sinkRefused valid resolved lasting =>
    have found := steady.replies ((steady.sinks _ _).moved resolved)
    obtain ⟨v', resolved, moved⟩ :=
      resolve_again steady resolved (congrArg Replies.sink (replies.trans found))
    have unchanged := judges_begun_again ours alike
    exact ⟨v', .ending (.sinkRefused valid resolved lasting) unchanged, moved⟩
  | adaptersUnlisted reached unlisted =>
    obtain ⟨v₁, v', reached, unlisted, moved⟩ :=
      reached.looks_again steady now st' unlisted replies
    have unchanged := withSink_again ours alike
    exact ⟨v', .ending (.adaptersUnlisted reached unlisted) unchanged, moved⟩
  | adapterUncreated reached unowned failed =>
    have tried := steady.replies (createReceiver_failed steady failed)
    obtain ⟨v₁, v₂, reached, looked, moved⟩ :=
      reached.looks_again steady now st' unowned (replies.trans tried)
    have still := (steady.replies moved).trans (replies.trans tried)
    have again := createReceiver_congr (congrArg Prod.fst failed) (congrArg Replies.adapter still)
    have failed : p.createReceiver _ v₂ = (.error _, _) := Prod.ext again rfl
    have unchanged := judges_withSink_again ours alike
    exact ⟨_, .ending (.adapterUncreated reached looked failed) unchanged,
      d.trans moved (createReceiver_failed steady failed)⟩
  | adapterUnready reached unready =>
    obtain ⟨v', reached, moved⟩ := reached.again steady now st' replies
    have unchanged := judges_withSink_again ours alike
    exact ⟨v', .ending (.adapterUnready reached unready) unchanged, moved⟩
  | adapterUnaddressed reached ready unaddressed =>
    obtain ⟨v', reached, moved⟩ := reached.again steady now st' replies
    have unchanged := judges_withAdapter_again ours alike
    exact ⟨v', .ending (.adapterUnaddressed reached ready unaddressed) unchanged, moved⟩
  | tokensAwaited reached unavailable fault =>
    have told := replies.trans (steady.replies (warned steady _ _ _))
    obtain ⟨v₂, v₃, reached, unavailable, moved⟩ :=
      reached.reads_again steady now st' unavailable told
    have unchanged := judges_withAdapter_again ours alike
    exact ⟨_, .ending (.tokensAwaited reached unavailable fault) unchanged,
      d.trans moved (warned steady _ _ _)⟩
  | tokensUnread reached unavailable unread =>
    obtain ⟨v₂, v', reached, unavailable, moved⟩ :=
      reached.reads_again steady now st' unavailable replies
    have unchanged := judges_withAdapter_again ours alike
    exact ⟨v', .ending (.tokensUnread reached unavailable unread) unchanged, moved⟩
  | @hookSynced uri address access secret r w₃ w₄ scope outcome tokens located synced =>
    cases inScope scope located
    have told := same.trans (outlook_proclaim steady _ _ _)
    -- the next pass writes the hook that this one made, or wrote
    obtain ⟨v₃, v', tokens, synced, moved⟩ := tokens.writes_again steady now st' stands synced told
    have recorded : st'.webhookId = some outcome.id := alike.webhookId
    rw [← recorded] at synced
    have unchanged := judges_recorded_again ours alike
    exact ⟨v', .ending (.hookSynced tokens located synced) unchanged, moved⟩
  | hookDenied tokens located failed denied =>
    cases inScope _ located
    have told := same.trans (steady.same (warned steady _ _ _))
    obtain ⟨v₃, v₄, tokens, failed, moved⟩ := tokens.fails_again steady now st' stands failed told
    have recorded : st'.webhookId = (p.complete st).webhookId := alike.webhookId
    rw [← recorded] at failed
    have unchanged := judges_withAdapter_again ours alike
    exact ⟨_, .ending (.hookDenied tokens located failed denied) unchanged,
      d.trans moved (warned steady _ _ _)⟩
  | hookFailed tokens located failed undenied =>
    cases inScope _ located
    obtain ⟨v₃, v', tokens, failed, moved⟩ := tokens.fails_again steady now st' stands failed same
    have recorded : st'.webhookId = (p.complete st).webhookId := alike.webhookId
    rw [← recorded] at failed
    have unchanged := judges_withAdapter_again ours alike
    exact ⟨v', .ending (.hookFailed tokens located failed undenied) unchanged, moved⟩

/-- **The next pass arrives where this one did**, and makes nothing. -/
theorem converge_again (same : p.team.outlook gitlab v = p.team.outlook gitlab (p.converge w).2)
    (now : Time.Instant) :
    ((p.again now (p.converge w).1.status).converge v).1 = (p.converge w).1 ∧
      d.rel v ((p.again now (p.converge w).1.status).converge v).2 := by
  have first := run_ends p (p.complete p.source.statusOrBlank) w
  -- beside the generation, which is the same in all passes, the stages decide on the status
  have alike : (p.run (p.complete p.source.statusOrBlank) w).1.status.Alike
      (p.converge w).1.status := ⟨rfl, rfl, rfl, rfl⟩
  obtain ⟨v', second, moved⟩ := first.again steady inScope stands same now alike
  have settled : (p.converge w).1.status.Settled := alike.settled first.settled
  rw [converge_apply (p.again now _)]
  rw [show (p.again now (p.converge w).1.status).source.statusOrBlank = (p.converge w).1.status
    from rfl, complete_eq settled, second.run_eq]
  exact ⟨rfl, moved⟩

end Steady

end Pass

end HookRelay

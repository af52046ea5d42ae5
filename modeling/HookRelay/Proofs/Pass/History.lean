import HookRelay.Proofs.Condition.Regular
import HookRelay.Proofs.Pass.Again
import HookRelay.Proofs.Pass.TakingDown

/-!
# What holds of a status, however it came about

A status has a history: passes worked on it, one after the other, for other specifications, with
other collaborators and at other times, and perhaps the source was taken down in between. A pass
takes up the status of the one before, changes fields and conditions at different points, and can
end at many of them. Still the fields and the conditions never contradict each other.

The invariant is that the conditions are regular, that the sink is provided exactly if its address
is recorded, and that the hook is configured only if its number is. A blank status does not carry
conditions yet; the first pass gives it all of them.

## Main definitions

* `Source.Reached` : the statuses that passes and taking down lead to
* `Status.Coherent` : fields and conditions that do not contradict each other
* `Status.Sound` : what every step preserves

## Main statements

* `Pass.Ends.sound`, `Pass.Departs.sound` : what every exit leaves behind is sound
* `Source.Reached.coherent` : every status with a history is coherent
-/

namespace HookRelay

open Condition (Finding Grounded statusOf grounded_holds grounded_fails grounded_unknown)
open Source (judged judged_ne_ready)

namespace Source

/-- **The statuses with a history**: the blank one, what passes (`Pass.converge`) make of such a
status, and what taking a source down (`Pass.finalize`) makes of it. -/
inductive Reached : Status → Prop
  | blank : Reached .blank
  | pass {W : Type} (p : Pass W) (w : W) (before : Reached p.source.statusOrBlank) :
      Reached (p.converge w).1.status
  | takenDown {W : Type} (p : Pass W) (w : W) {st : Status}
      (before : Reached p.source.statusOrBlank) (done : (p.finalize w).1 = .ok st) : Reached st

/-- **Fields and conditions that do not contradict each other**: `sinkUri` and `SinkProvided`,
`webhookId` and `WebhookConfigured`, and `Ready` and what it follows from. -/
structure Status.Coherent (st : Status) : Prop where
  /-- There are no conditions yet, or exactly the declared ones, in their order. -/
  listed : st.conditions = [] ∨
    st.conditions.map Condition.name = [ready, sinkProvided, deployed, webhookConfigured]
  /-- Readiness says what follows from the others. -/
  derived : st.conditions ≠ [] → statusOf ready st.conditions = some
    (if ∃ name ∈ judged, statusOf name st.conditions = some Condition.fails then Condition.fails
    else if ∃ name ∈ judged, statusOf name st.conditions ≠ some Condition.holds then
      Condition.unknown
    else Condition.holds)
  /-- The sink is provided exactly if its address is recorded. -/
  sink : st.Holding sinkProvided ↔ st.sinkUri.isSome
  /-- A hook that is configured is recorded. -/
  hook : st.Holding webhookConfigured → st.webhookId.isSome
  /-- What holds is not explained, and what fails is. -/
  grounded : ∀ c ∈ st.conditions,
    (c.status = Condition.holds → c.reason = none ∧ c.message = none) ∧
    (c.status = Condition.fails → c.reason.isSome ∧ c.message.isSome)
  /-- A source that is ready has an address to deliver to and a hook. -/
  whole : st.isReady = true → st.sinkUri.isSome ∧ st.webhookId.isSome

namespace Status

variable {st : Status}

/-- The conditions of a status are regular. -/
def Regular (st : Status) : Prop := Source.conditions.Regular st.conditions

/-- **What every step preserves**: the conditions are regular, and say of the sink and the hook
what the fields do. -/
structure Sound (st : Status) : Prop where
  regular : st.Regular
  sink : st.Holding sinkProvided ↔ st.sinkUri.isSome
  hook : st.Holding webhookConfigured → st.webhookId.isSome

theorem not_holding_of_none {name : String} (empty : st.conditions = []) : ¬ st.Holding name := by
  rw [Holding, empty]
  exact Option.some_ne_none _ ∘ Eq.symm

theorem Regular.inStep (h : st.Regular) : st.InStep := by
  have derived := congrArg (Option.map Finding.status) h.settled.derived
  rw [Condition.findingOf, Option.map_map] at derived
  exact derived

/-- Readiness in regular conditions, told by the conditions that passes judge. -/
theorem Regular.statusOf_ready (h : st.Regular) : statusOf ready st.conditions = some
    (if ∃ name ∈ judged, statusOf name st.conditions = some Condition.fails then Condition.fails
    else if ∃ name ∈ judged, statusOf name st.conditions ≠ some Condition.holds then
      Condition.unknown
    else Condition.holds) := by
  have follows : statusOf ready st.conditions =
      some (Source.conditions.verdict st.conditions).status := h.inStep
  rw [follows, Condition.Set.verdict_status]
  simp [Source.conditions, judged]

theorem Sound.toCoherent (h : st.Sound) : st.Coherent where
  listed := .inr h.regular.listed
  derived _ := h.regular.statusOf_ready
  sink := h.sink
  hook := h.hook
  grounded c mem := ⟨(h.regular.grounded c mem).plain, (h.regular.grounded c mem).explained⟩
  whole isReady := by
    have holding := h.regular.inStep.isReady_iff.1 isReady
    exact ⟨h.sink.1 (holding _ (by decide)), h.hook (holding _ (by decide))⟩

theorem coherent_blank : Status.blank.Coherent where
  listed := .inl rfl
  derived conditions := absurd rfl conditions
  sink := iff_of_false (not_holding_of_none rfl) (by decide)
  hook holding := absurd holding (not_holding_of_none rfl)
  grounded := nofun
  whole isReady := absurd isReady (by decide)

end Status

end Source

namespace Pass

variable {W : Type} {p : Pass W} {st : Source.Status} {name other : String} {f : Finding}

/-! ## Judging keeps a status sound -/

theorem regular_judges (h : st.Regular) (mem : name ∈ judged) (said : f.Grounded) :
    (p.judges name f st).Regular :=
  h.mark Source.conditions_apart (judged_mem_names mem) (judged_ne_ready mem) said

theorem holding_judges_self (mem : name ∈ judged) :
    (p.judges name f st).Holding name ↔ f.status = Condition.holds := by
  have said : statusOf name (p.judges name f st).conditions = some f.status :=
    Condition.Set.statusOf_mark_self (judged_ne_ready mem)
  rw [Source.Status.Holding, said, Option.some.injEq]

theorem holding_judges_of_ne (mem : name ∈ judged) (otherMem : other ∈ judged)
    (ne : other ≠ name) : (p.judges name f st).Holding other ↔ st.Holding other :=
  iff_of_eq (congrArg (· = _)
    (Condition.Set.statusOf_mark_of_ne (judged_ne_ready mem) (judged_ne_ready otherMem) ne))

/-- Judging the sink keeps a status sound, where the judgement goes with the address. -/
theorem sound_judges_sink (h : st.Sound) {uri : Option String} (said : f.Grounded)
    (goes : f.status = Condition.holds ↔ uri.isSome) :
    (p.judges Source.sinkProvided f { p.begun st with sinkUri := uri }).Sound where
  regular :=
    have kept : Source.Status.Regular { p.begun st with sinkUri := uri } := h.regular
    regular_judges kept (by decide) said
  sink := (holding_judges_self (by decide)).trans goes
  hook holding := h.hook ((holding_judges_of_ne (by decide) (by decide) (by decide)).1 holding)

/-- Judging the adapter keeps a status sound. -/
theorem sound_judges_adapter (h : st.Sound) (said : f.Grounded) :
    (p.judges Source.deployed f st).Sound where
  regular := regular_judges h.regular (by decide) said
  sink := (holding_judges_of_ne (by decide) (by decide) (by decide)).trans h.sink
  hook holding := h.hook ((holding_judges_of_ne (by decide) (by decide) (by decide)).1 holding)

/-- Judging the hook keeps a status sound, where a hook that is configured is recorded. -/
theorem sound_judges_hook (h : st.Sound) (id : Option Int) (said : f.Grounded)
    (goes : f.status = Condition.holds → id.isSome) :
    (p.judges Source.webhookConfigured f { st with webhookId := id }).Sound where
  regular :=
    have kept : Source.Status.Regular { st with webhookId := id } := h.regular
    regular_judges kept (by decide) said
  sink := (holding_judges_of_ne (by decide) (by decide) (by decide)).trans h.sink
  hook holding := goes ((holding_judges_self (by decide)).1 holding)

/-- A judgement of the hook that it is not as it should be keeps a status sound. -/
theorem sound_fails_hook (h : st.Sound) (reason message : String) :
    (p.fails Source.webhookConfigured reason message st).Sound :=
  sound_judges_hook h st.webhookId (grounded_fails reason message)
    fun holds => absurd holds (by decide : Condition.fails ≠ Condition.holds)

theorem sound_fails_adapter (h : st.Sound) (reason message : String) :
    (p.fails Source.deployed reason message st).Sound :=
  sound_judges_adapter h (grounded_fails reason message)

theorem sound_withSink (h : st.Sound) (uri : String) : (p.withSink uri st).Sound :=
  sound_judges_sink h grounded_holds (iff_of_true rfl rfl)

theorem sound_withAdapter (h : st.Sound) (uri : String) : (p.withAdapter uri st).Sound :=
  sound_judges_adapter (sound_withSink h uri) grounded_holds

/-- The first pass gives a blank status all conditions, and none of them holds. -/
theorem sound_complete_blank : (p.complete .blank).Sound where
  regular := ⟨rfl, settled_complete .blank, Condition.Set.grounded_complete nofun⟩
  sink := by
    rw [holding_complete (by decide)]
    exact Source.Status.coherent_blank.sink
  hook holding := Source.Status.coherent_blank.hook ((holding_complete (by decide)).1 holding)

/-! ## What every exit leaves behind -/

/-- **Every exit of a pass leaves a sound status.** -/
theorem Ends.sound {w w' : W} {o : Outcome} (ends : p.Ends st w o w') (h : st.Sound) :
    o.status.Sound := by
  cases ends with
  | invalid broken => exact sound_fails_hook h _ _
  | sinkUnanswered valid resolved transient => exact ⟨h.regular, h.sink, h.hook⟩
  | @sinkRefused e _ valid resolved lasting =>
    exact sound_judges_sink h (grounded_fails "SinkNotFound" e.message)
      (iff_of_false (show Condition.fails ≠ Condition.holds by decide) nofun)
  | adaptersUnlisted sink unlisted => exact sound_withSink h _
  | adapterUncreated sink unowned failed => exact sound_fails_adapter (sound_withSink h _) _ _
  | adapterUnready adapter unready => exact sound_fails_adapter (sound_withSink h _) _ _
  | @adapterUnaddressed uri _ _ adapter ready unaddressed =>
    exact sound_judges_hook (sound_withAdapter h uri) _ (grounded_unknown _ _)
      fun holds => absurd holds (by decide : Condition.unknown ≠ Condition.holds)
  | tokensAwaited adapter unavailable fault => exact sound_fails_hook (sound_withAdapter h _) _ _
  | tokensUnread adapter unavailable unread => exact sound_fails_hook (sound_withAdapter h _) _ _
  | @hookSynced uri _ _ _ _ _ _ _ outcome tokens inScope synced =>
    exact sound_judges_hook (sound_withAdapter h uri) (some outcome.id) grounded_holds fun _ => rfl
  | hookDenied tokens inScope failed denied => exact sound_fails_hook (sound_withAdapter h _) _ _
  | hookFailed tokens inScope failed undenied => exact sound_fails_hook (sound_withAdapter h _) _ _

/-- **Every exit of taking a source down leaves a sound status**, if it leaves one at all. -/
theorem Departs.sound {w w' : W} {answer : Except Error Source.Status}
    (departs : p.Departs w answer w') (done : answer = .ok st)
    (h : p.source.statusOrBlank.Sound) : st.Sound := by
  cases departs with
  | unrecorded recorded =>
    cases done
    exact h
  | @parted id fate w₁ recorded deletes =>
    cases done
    have cleared : p.complete { p.source.statusOrBlank with webhookId := none } =
        { p.source.statusOrBlank with webhookId := none } := complete_eq h.regular.settled
    rw [withoutHook, cleared]
    exact sound_judges_hook h none (grounded_fails _ _)
      fun holds => absurd holds (by decide : Condition.fails ≠ Condition.holds)
  | kept recorded deletes => cases done

end Pass

/-! ## Histories -/

namespace Source

open Pass (run_ends finalize_departs)

variable {st : Status}

/-- A status with a history is blank, or every step has kept it sound. -/
theorem Reached.blank_or_sound (reached : Reached st) : st = .blank ∨ st.Sound := by
  induction reached with
  | blank => exact .inl rfl
  | pass p w before earlier =>
    have begins : (p.complete p.source.statusOrBlank).Sound := by
      obtain blank | sound := earlier
      · rw [blank]
        exact Pass.sound_complete_blank
      · rw [Pass.complete_eq sound.regular.settled]
        exact sound
    have ended := (run_ends p (p.complete p.source.statusOrBlank) w).sound begins
    exact .inr ⟨ended.regular, ended.sink, ended.hook⟩
  | takenDown p w before done earlier =>
    obtain blank | sound := earlier
    · -- a blank status records no hook, so that there is nothing to take down
      have left : (p.finalize w).1 = .ok p.source.statusOrBlank := by
        simp [Pass.finalize, blank, Status.blank]
      exact .inl ((Except.ok.inj (done.symm.trans left)).trans blank)
    · exact .inr ((finalize_departs p w).sound done sound)

/-- **Every status with a history is coherent**, whatever specifications it was worked on for,
whatever the collaborators answered, and at whatever times. -/
theorem Reached.coherent (reached : Reached st) : st.Coherent := by
  obtain rfl | sound := reached.blank_or_sound
  · exact Status.coherent_blank
  · exact sound.toCoherent

/-- In memory, a source is taken down that a first pass made ready: its sink still has an address,
and it has no hook. -/
theorem coherent_parted :
    ∃ st, Reached st ∧ ((InMemory.passOver Pass.hooked).finalize InMemory.ready).1 = .ok st ∧
      st.sinkUri.isSome ∧ st.webhookId = none ∧ st.conditions.length = 4 ∧ st.Coherent := by
  have first : Reached Pass.hooked.statusOrBlank :=
    .pass (InMemory.passOver InMemory.source) InMemory.ready .blank
  have reached := Reached.takenDown (InMemory.passOver Pass.hooked) InMemory.ready first rfl
  exact ⟨_, reached, rfl, rfl, rfl, rfl, Reached.coherent reached⟩

end Source

end HookRelay

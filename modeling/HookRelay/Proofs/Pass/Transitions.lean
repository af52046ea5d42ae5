import HookRelay.Proofs.Condition.Advance
import HookRelay.Proofs.Pass.History

/-!
# When the times of conditions move

A pass judges some conditions to hold, one after another, and one more last. The time of each of
these moves exactly if its status is another one behind the pass. The time of readiness moves with
its status too; and it moves in one more case, in which the status is the same before and after. The
pass first judges that all holds that failed before, and then finds a failure further on: readiness
fails before and behind the pass, and did not in between.

Behind this stands what a status with a history can look like. A hook is configured only where the
sink and the adapter were judged, so that readiness that is unknown does not come to hold on the
way.

## Main definitions

* `Course` : what a pass judges, in this order
* `Source.HookLast` : the hook is configured only behind what was judged
* `FailsAnew` : readiness fails before and after, and for no condition that failed before

## Main statements

* `Ends.course` : every exit of a pass judges by a course
* `Course.lapses_iff` : when readiness leaves its status and comes back
* `converge_since` : when the times of conditions move
* `time_moved` : a readiness that fails before and after a pass has the time of the pass
-/

namespace HookRelay

open Condition (Finding Carried Stamped ImprovesAt named statusOf statusOf_of_named)
open Source (judged judged_ne_ready conditions_apart)

namespace Pass

variable {W : Type} {p : Pass W} {st : Source.Status} {w w' : W} {o : Outcome}

/-! ## What a pass judges -/

/-- **What a pass judges, in this order**: the conditions that it finds to hold, by `markTrue`, and
one more with what it finds out last. -/
inductive Course : (held : List String) → (last : String) → Finding → Prop
  | invalid {f : Finding} (failing : f.status = Condition.fails) :
      Course [] Source.webhookConfigured f
  | sink {f : Finding} (known : f.status = Condition.holds ∨ f.status = Condition.fails) :
      Course [] Source.sinkProvided f
  | adapter {f : Finding} (failing : f.status = Condition.fails) :
      Course [Source.sinkProvided] Source.deployed f
  | hook (f : Finding) : Course [Source.sinkProvided, Source.deployed] Source.webhookConfigured f

/-- The conditions of a source behind a course. -/
def judgedBy (now : Time.Instant) (held : List String) (last : String) (f : Finding)
    (cs : List Condition) : List Condition :=
  Source.conditions.mark now last f (Source.conditions.advance now held cs)

/-- **Every exit of a pass judges by a course**, or judges nothing. -/
theorem Ends.course (ends : p.Ends st w o w') :
    o.status.conditions = st.conditions ∨ ∃ held last f, Course held last f ∧
      o.status.conditions = judgedBy p.now held last f st.conditions := by
  cases ends with
  | invalid => exact .inr ⟨_, _, _, .invalid rfl, rfl⟩
  | sinkUnanswered => exact .inl rfl
  | sinkRefused => exact .inr ⟨_, _, _, .sink (.inr rfl), rfl⟩
  | adaptersUnlisted => exact .inr ⟨_, _, _, .sink (.inl rfl), rfl⟩
  | adapterUncreated | adapterUnready => exact .inr ⟨_, _, _, .adapter rfl, rfl⟩
  | adapterUnaddressed | tokensAwaited | tokensUnread | hookSynced | hookDenied | hookFailed =>
    exact .inr ⟨_, _, _, .hook _, rfl⟩

namespace Course

variable {now : Time.Instant} {cs : List Condition} {held : List String} {last name : String}
  {f : Finding} (course : Course held last f)
include course

theorem last_mem : last ∈ judged := by
  cases course <;> decide

theorem held_ne_ready (n : String) (mem : n ∈ held) : n ≠ Source.ready := by
  revert n
  cases course <;> decide

theorem last_not_mem : last ∉ held := by
  cases course <;> decide

/-- What is said of each condition behind a course. -/
theorem statusOf_judgedBy (mem : name ∈ judged) : statusOf name (judgedBy now held last f cs) =
    if name = last then some f.status
    else if name ∈ held then some Condition.holds
    else statusOf name cs := by
  split
  · next same =>
    rw [same]
    exact Condition.Set.statusOf_mark_self (judged_ne_ready course.last_mem)
  · next other =>
    refine (Condition.Set.statusOf_mark_of_ne (judged_ne_ready course.last_mem)
      (judged_ne_ready mem) other).trans ?_
    split
    · next there => exact Condition.Set.statusOf_advance_of_mem course.held_ne_ready there
    · next later =>
      exact Condition.Set.statusOf_advance_of_not_mem course.held_ne_ready (judged_ne_ready mem)
        later

/-- **The time of each condition that a course judges moves with its status.** -/
theorem carried_judgedBy (inStep : Source.conditions.InStep cs) (mem : name ∈ judged) :
    Carried now name cs (judgedBy now held last f cs) := by
  have first : Carried now name cs (Source.conditions.advance now held cs) :=
    Condition.Set.carried_advance conditions_apart inStep held course.held_ne_ready
  have second : Carried now name (Source.conditions.advance now held cs)
      (judgedBy now held last f cs) :=
    Condition.Set.carried_mark (judged_ne_ready course.last_mem)
  refine first.trans second fun back => ?_
  by_cases same : name = last
  · rw [same]
    exact Condition.Set.statusOf_advance_of_not_mem course.held_ne_ready
      (judged_ne_ready course.last_mem) course.last_not_mem
  · exact (Condition.Set.statusOf_mark_of_ne (judged_ne_ready course.last_mem)
      (judged_ne_ready mem) same).symm.trans back

end Course

end Pass

/-! ## The hook comes last -/

namespace Source

/-- A condition was judged to hold or to fail. -/
def Decided (name : String) (cs : List Condition) : Prop :=
  statusOf name cs = some Condition.holds ∨ statusOf name cs = some Condition.fails

/-- **A hook is configured only behind a sink and an adapter that were judged.** -/
def HookLast (cs : List Condition) : Prop :=
  statusOf webhookConfigured cs = some Condition.holds →
    Decided sinkProvided cs ∧ Decided deployed cs

end Source

namespace Pass

variable {W : Type} {p : Pass W} {st : Source.Status} {now : Time.Instant} {cs : List Condition}
  {w w' : W} {o : Outcome}

open Source (HookLast Decided)

/-- A course judges the hook to hold only behind the others. -/
theorem Course.hookLast {held : List String} {last : String} {f : Finding}
    (course : Course held last f) (before : HookLast cs) :
    HookLast (judgedBy now held last f cs) := by
  intro configured
  rw [course.statusOf_judgedBy (by decide)] at configured
  rw [Decided, Decided, course.statusOf_judgedBy (by decide), course.statusOf_judgedBy (by decide)]
  cases course with
  | invalid failing =>
    rw [if_pos rfl, failing] at configured
    exact absurd configured (by decide)
  | sink known => exact ⟨known.imp (congrArg some) (congrArg some), (before configured).2⟩
  | adapter failing => exact ⟨.inl rfl, .inr (congrArg some failing)⟩
  | hook f => exact ⟨.inl rfl, .inl rfl⟩

theorem Ends.hookLast (ends : p.Ends st w o w') (before : HookLast st.conditions) :
    HookLast o.status.conditions := by
  obtain same | ⟨held, last, f, course, after⟩ := ends.course
  · rwa [same]
  · rw [after]
    exact course.hookLast before

/-- Completing a status with a history leaves the hook last. -/
theorem hookLast_complete (sound : st = .blank ∨ st.Sound) (before : HookLast st.conditions) :
    HookLast (p.complete st).conditions := by
  obtain rfl | sound := sound
  · exact fun configured => absurd ((holding_complete (by decide)).1 configured)
      (Source.Status.not_holding_of_none rfl)
  · rwa [complete_eq sound.regular.settled]

/-- Taking a source down leaves the hook last, for it is judged to fail. -/
theorem Departs.hookLast {answer : Except Error Source.Status} (departs : p.Departs w answer w')
    (done : answer = .ok st) (before : HookLast p.source.statusOrBlank.conditions) :
    HookLast st.conditions := by
  cases departs with
  | unrecorded recorded =>
    cases done
    exact before
  | parted recorded deletes =>
    cases done
    exact fun configured => absurd ((holding_judges_self (by decide)).1 configured)
      (show Condition.fails ≠ Condition.holds by decide)
  | kept recorded deletes => cases done

end Pass

namespace Source

open Pass (run_ends finalize_departs)

/-- **In every status with a history the hook comes last.** -/
theorem Reached.hookLast {st : Status} (reached : Reached st) : HookLast st.conditions := by
  induction reached with
  | blank => exact fun configured => absurd configured (Status.not_holding_of_none rfl)
  | pass p w before ih =>
    exact (run_ends p _ w).hookLast (Pass.hookLast_complete before.blank_or_sound ih)
  | takenDown p w before done ih => exact (finalize_departs p w).hookLast done ih

end Source

/-! ## Readiness -/

namespace Source

variable {cs : List Condition} (inStep : conditions.InStep cs)
include inStep

theorem ready_fails_iff : statusOf ready cs = some Condition.fails ↔
    ∃ name ∈ judged, statusOf name cs = some Condition.fails := by
  have derived : statusOf ready cs = some (conditions.verdict cs).status := inStep
  rw [derived, Option.some.injEq, Condition.Set.verdict_fails_iff]
  simp [conditions, judged]

theorem ready_holds_iff : statusOf ready cs = some Condition.holds ↔
    ∀ name ∈ judged, statusOf name cs = some Condition.holds := by
  have derived : statusOf ready cs = some (conditions.verdict cs).status := inStep
  rw [derived, Option.some.injEq, Condition.Set.verdict_holds_iff]
  simp [conditions, judged]

end Source

namespace Pass

open Source (HookLast Decided ready_fails_iff ready_holds_iff)

/-- **`Ready` fails before and after, and for no condition that failed before.** -/
structure FailsAnew (before after : List Condition) : Prop where
  failed : statusOf Source.ready before = some Condition.fails
  fails : statusOf Source.ready after = some Condition.fails
  another : ∀ name ∈ judged, statusOf name before = some Condition.fails →
    statusOf name after ≠ some Condition.fails

instance (before after : List Condition) : Decidable (FailsAnew before after) :=
  decidable_of_iff (statusOf Source.ready before = some Condition.fails ∧
    statusOf Source.ready after = some Condition.fails ∧
    ∀ name ∈ judged, statusOf name before = some Condition.fails →
      statusOf name after ≠ some Condition.fails)
    ⟨fun h => ⟨h.1, h.2.1, h.2.2⟩, fun h => ⟨h.failed, h.fails, h.another⟩⟩

theorem not_failsAnew_self {cs : List Condition} (inStep : Source.conditions.InStep cs) :
    ¬ FailsAnew cs cs := by
  intro anew
  obtain ⟨name, mem, failing⟩ := (ready_fails_iff inStep).1 anew.failed
  exact anew.another name mem failing failing

section Readiness

variable {now : Time.Instant} {cs : List Condition} {held : List String} {last name : String}
  {f : Finding} (course : Course held last f) (inStep : Source.conditions.InStep cs)
include course

/-- What fails before the last judgement failed already before the first. -/
theorem Course.failed_of_advance (mem : name ∈ judged)
    (failing : statusOf name (Source.conditions.advance now held cs) = some Condition.fails) :
    name ∉ held ∧ statusOf name cs = some Condition.fails := by
  have unheld : name ∉ held := by
    intro there
    rw [Condition.Set.statusOf_advance_of_mem course.held_ne_ready there] at failing
    exact absurd failing (by decide)
  refine ⟨unheld, ?_⟩
  rwa [Condition.Set.statusOf_advance_of_not_mem course.held_ne_ready (judged_ne_ready mem)
    unheld] at failing

theorem Course.statusOf_of_ne (mem : name ∈ judged) (ne : name ≠ last) :
    statusOf name (judgedBy now held last f cs) =
      statusOf name (Source.conditions.advance now held cs) :=
  Condition.Set.statusOf_mark_of_ne (judged_ne_ready course.last_mem) (judged_ne_ready mem) ne

theorem Course.statusOf_advance_last : statusOf last (Source.conditions.advance now held cs) =
    statusOf last cs :=
  Condition.Set.statusOf_advance_of_not_mem course.held_ne_ready (judged_ne_ready course.last_mem)
    course.last_not_mem

theorem Course.inStep_judgedBy : Source.conditions.InStep (judgedBy now held last f cs) :=
  Condition.Set.inStep_mark conditions_apart (judged_ne_ready course.last_mem)

include inStep

theorem Course.inStep_advance : Source.conditions.InStep (Source.conditions.advance now held cs) :=
  Condition.Set.inStep_advance conditions_apart inStep held course.held_ne_ready

/-- Readiness that came to hold on the way and is back at what it was, held or failed before. -/
theorem Course.held_or_failed (hookLast : HookLast cs)
    (holding : statusOf Source.ready (Source.conditions.advance now held cs) = some Condition.holds)
    (back : statusOf Source.ready (judgedBy now held last f cs) = statusOf Source.ready cs) :
    statusOf Source.ready cs = some Condition.holds ∨
      statusOf Source.ready cs = some Condition.fails := by
  have all := (ready_holds_iff (course.inStep_advance inStep)).1 holding
  have after : statusOf last (judgedBy now held last f cs) = some f.status :=
    (course.statusOf_judgedBy course.last_mem).trans (if_pos rfl)
  have known : f.status = Condition.holds ∨ f.status = Condition.fails →
      statusOf Source.ready cs = some Condition.holds ∨
        statusOf Source.ready cs = some Condition.fails := by
    rintro (holds | fails)
    · refine .inl (back.symm.trans ((ready_holds_iff course.inStep_judgedBy).2 fun n mem => ?_))
      by_cases same : n = last
      · rw [same, after, holds]
      · exact (course.statusOf_of_ne mem same).trans (all n mem)
    · refine .inr (back.symm.trans ((ready_fails_iff course.inStep_judgedBy).2 ?_))
      exact ⟨last, course.last_mem, after.trans (congrArg some fails)⟩
  cases course with
  | invalid failing => exact known (.inr failing)
  | sink said => exact known said
  | adapter failing => exact known (.inr failing)
  | hook f =>
    -- the hook held before, so that the others were judged, and readiness followed
    have configured : statusOf Source.webhookConfigured cs = some Condition.holds :=
      (Course.hook f).statusOf_advance_last.symm.trans (all _ (by decide))
    obtain ⟨sink, adapter⟩ := hookLast configured
    by_cases failed : statusOf Source.ready cs = some Condition.fails
    · exact .inr failed
    · have unfailing : ∀ {n}, n ∈ judged → Decided n cs → statusOf n cs = some Condition.holds :=
        fun mem seen => seen.resolve_right fun failing =>
          failed ((ready_fails_iff inStep).2 ⟨_, mem, failing⟩)
      refine .inl ((ready_holds_iff inStep).2 (Source.forall_judged.2 ⟨?_, ?_, configured⟩))
      · exact unfailing (by decide) sink
      · exact unfailing (by decide) adapter

/-- Readiness that fails anew did not fail before the last judgement. -/
theorem Course.lowered_of_failsAnew (anew : FailsAnew cs (judgedBy now held last f cs)) :
    statusOf Source.ready (Source.conditions.advance now held cs) ≠ some Condition.fails := by
  intro failing
  obtain ⟨n, mem, fails⟩ := (ready_fails_iff (course.inStep_advance inStep)).1 failing
  have before := (course.failed_of_advance mem fails).2
  by_cases same : n = last
  · -- the last one no longer fails, so that what fails in the end did so all along
    obtain ⟨m, mem', fails'⟩ := (ready_fails_iff course.inStep_judgedBy).1 anew.fails
    have other : m ≠ last := fun e => anew.another n mem before (same.trans e.symm ▸ fails')
    rw [course.statusOf_of_ne mem' other] at fails'
    refine anew.another m mem' (course.failed_of_advance mem' fails').2 ?_
    rwa [course.statusOf_of_ne mem' other]
  · exact anew.another n mem before ((course.statusOf_of_ne mem same).trans fails)

/-- **When readiness leaves its status and comes back**: if it fails before and after a course, and
for no condition that failed before. -/
theorem Course.lapses_iff (hookLast : HookLast cs) :
    (statusOf Source.ready (Source.conditions.advance now held cs) ≠ statusOf Source.ready cs ∧
      statusOf Source.ready (judgedBy now held last f cs) = statusOf Source.ready cs) ↔
    FailsAnew cs (judgedBy now held last f cs) := by
  constructor
  · rintro ⟨left, back⟩
    have improves : ImprovesAt Source.ready cs (Source.conditions.advance now held cs) :=
      Condition.Set.improves_advance conditions_apart inStep held course.held_ne_ready
    obtain ⟨b, between, up⟩ := improves _ inStep
    have here : statusOf Source.ready cs = some (Source.conditions.verdict cs).status := inStep
    have failed : statusOf Source.ready cs = some Condition.fails := by
      obtain same | holds | failed := up
      · exact absurd (between.trans ((congrArg some same).trans here.symm)) left
      · rw [holds] at between
        obtain held | failed := course.held_or_failed inStep hookLast between back
        · exact absurd (between.trans held.symm) left
        · exact failed
      · exact here.trans (congrArg some failed)
    refine ⟨failed, back.trans failed, fun n mem before after => left ?_⟩
    rw [failed, ready_fails_iff (course.inStep_advance inStep)]
    refine ⟨n, mem, ?_⟩
    by_cases same : n = last
    · rw [same, course.statusOf_advance_last, ← same, before]
    · rw [← course.statusOf_of_ne (f := f) mem same, after]
  · intro anew
    refine ⟨fun still => ?_, anew.fails.trans anew.failed.symm⟩
    exact course.lowered_of_failsAnew inStep anew (still.trans anew.failed)

variable (now) in
/-- **The time of readiness moves with its status, or if it fails anew.** -/
theorem Course.since_ready (hookLast : HookLast cs) {c : Condition} {rest : List Condition}
    (here : named Source.ready cs = c :: rest) :
    ∃ c', named Source.ready (judgedBy now held last f cs) = c' :: rest ∧
      c'.since = if c'.status = c.status ∧ ¬ FailsAnew cs (judgedBy now held last f cs)
        then c.since else some now.render := by
  have first : Carried now Source.ready cs (Source.conditions.advance now held cs) :=
    Condition.Set.carried_advance conditions_apart inStep held course.held_ne_ready
  have second : Carried now Source.ready (Source.conditions.advance now held cs)
      (judgedBy now held last f cs) :=
    Condition.Set.carried_mark (judged_ne_ready course.last_mem)
  by_cases anew : FailsAnew cs (judgedBy now held last f cs)
  · obtain ⟨left, back⟩ := (course.lapses_iff inStep hookLast).2 anew
    obtain ⟨c', there, moved⟩ := first.lapse second (fun e => left (e.symm.trans back)) here
    exact ⟨c', there, moved.trans (if_neg fun h => h.2 anew).symm⟩
  · have straight := fun back => Classical.not_not.1 fun left =>
      anew ((course.lapses_iff inStep hookLast).1 ⟨left, back⟩)
    obtain ⟨c', there, stamped⟩ := first.trans second straight c rest here
    refine ⟨c', there, stamped.trans ?_⟩
    simp only [anew, not_false_eq_true, and_true]

end Readiness

/-! ## A whole pass -/

variable {W : Type} {p : Pass W}

/-- A status with a history that has a condition is complete. -/
theorem complete_of_reached {st : Source.Status} (reached : Source.Reached st)
    (some_ : st.conditions ≠ []) : st.InStep ∧ p.complete st = st := by
  obtain rfl | sound := reached.blank_or_sound
  · exact absurd rfl some_
  · exact ⟨sound.regular.inStep, complete_eq sound.regular.settled⟩

/-- **When the times of conditions move**: with the status, and else only the time of readiness, if
it fails before and after the pass and for no condition that failed before. -/
theorem converge_since (reached : Source.Reached p.source.statusOrBlank) (w : W) {name : String}
    (mem : name ∈ Source.conditions.names) {c : Condition}
    (had : Condition.find? name p.source.statusOrBlank.conditions = some c) :
    ∃ c', Condition.find? name (p.converge w).1.status.conditions = some c' ∧
      c'.since =
        if c'.status = c.status ∧ ¬ (name = Source.ready ∧
          FailsAnew p.source.statusOrBlank.conditions (p.converge w).1.status.conditions)
        then c.since else some p.now.render := by
  have filled : p.source.statusOrBlank.conditions ≠ [] := by
    intro empty
    rw [empty] at had
    cases had
  obtain ⟨inStep, complete⟩ := complete_of_reached (p := p) reached filled
  have ends := run_ends p (p.complete p.source.statusOrBlank) w
  rw [complete] at ends
  have after : (p.converge w).1.status.conditions =
      (p.run p.source.statusOrBlank w).1.status.conditions := by
    rw [converge_apply, complete]
  rw [after]
  obtain same | ⟨held, last, f, course, judged⟩ := ends.course
  · rw [same]
    exact ⟨c, had, (if_pos ⟨rfl, fun h => not_failsAnew_self inStep h.2⟩).symm⟩
  · rw [judged]
    rw [Condition.Set.find?_eq_head?, List.head?_eq_some_iff] at had
    obtain ⟨rest, here⟩ := had
    rw [Condition.Set.find?_eq_head?]
    obtain isReady | other := List.mem_cons.1 mem
    · obtain rfl : name = Source.ready := isReady
      obtain ⟨c', there, since⟩ := course.since_ready p.now inStep reached.hookLast here
      refine ⟨c', by rw [there]; rfl, since.trans ?_⟩
      simp only [true_and]
    · obtain ⟨c', there, stamped⟩ := course.carried_judgedBy inStep other c rest here
      refine ⟨c', by rw [there]; rfl, stamped.trans ?_⟩
      simp [judged_ne_ready other]

/-! ### In memory -/

/-- A world without sinks. -/
def sinkless : InMemory := { InMemory.ready with sinks := ⟨.notFound, []⟩ }

/-- The source behind a first pass that found no sink. -/
def unsunk : Source := { InMemory.source with
  status := some ((InMemory.passOver InMemory.source).converge sinkless).1.status }

/-- A pass over that source one minute later. -/
def minuteLater : Pass InMemory := { InMemory.passOver unsunk with now := ⟨60⟩ }

/-- A world in which the sink is there, and adapters are not ready at once. -/
def starting : InMemory := { InMemory.ready with receivers := Receiver.Memory.empty }

/-- The sink is there now, the adapter is not ready: readiness fails anew, and has a new time. -/
theorem since_starting :
    Source.Reached minuteLater.source.statusOrBlank ∧ Source.ready ∈ Source.conditions.names ∧
    ∃ c, Condition.find? Source.ready minuteLater.source.statusOrBlank.conditions = some c ∧
      FailsAnew minuteLater.source.statusOrBlank.conditions
        (minuteLater.converge starting).1.status.conditions ∧
      ∃ c', Condition.find? Source.ready (minuteLater.converge starting).1.status.conditions =
        some c' ∧ c'.since = some minuteLater.now.render := by
  have reached : Source.Reached minuteLater.source.statusOrBlank :=
    .pass (InMemory.passOver InMemory.source) sinkless .blank
  have anew : FailsAnew minuteLater.source.statusOrBlank.conditions
      (minuteLater.converge starting).1.status.conditions := by decide +kernel
  have mem : Source.ready ∈ Source.conditions.names := by decide
  obtain ⟨c', there, since⟩ := converge_since reached starting mem rfl
  exact ⟨reached, mem, _, rfl, anew, c', there, since.trans (if_neg fun h => h.2 ⟨rfl, anew⟩)⟩

/-- **A time that moved without a transition**: readiness of the source fails before the pass and
after it, and has the time of the pass. -/
theorem time_moved :
    Source.Reached minuteLater.source.statusOrBlank ∧
    statusOf Source.ready minuteLater.source.statusOrBlank.conditions = some Condition.fails ∧
    statusOf Source.ready (minuteLater.converge starting).1.status.conditions =
      some Condition.fails ∧
    (Condition.find? Source.ready minuteLater.source.statusOrBlank.conditions).map
      Condition.since = some (some "1970-01-01T00:00:00Z") ∧
    (Condition.find? Source.ready (minuteLater.converge starting).1.status.conditions).map
      Condition.since = some (some "1970-01-01T00:01:00Z") :=
  ⟨.pass (InMemory.passOver InMemory.source) sinkless .blank, by decide +kernel, by decide +kernel,
    by decide +kernel, by decide +kernel⟩

end Pass

end HookRelay

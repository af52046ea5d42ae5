import HookRelay.Proofs.Controller.OneSource
import Mathlib.Data.List.Basic

/-!
# Hooks whose number is lost

The controller looks at a source again and again, each time as the cluster stores it. A hook that
a look creates is found again by the number in the status, and by nothing else. If the cluster
refuses the status, the number is lost: nobody deletes the hook, and a later look that makes a
hook creates another one. Nothing else gives a source two hooks.

## Main definitions

* `Look`, `Run` : a look at a source, and looks one after the other
* `Look.Creates`, `Look.Loses` : a look creates a hook, and its number is not stored
* `Ledger` : what is known of the hooks that were created
* `OneSource.refused`, `OneSource.repeated` : two looks that leave two hooks

## Main statements

* `Run.ledger` : what is known holds at every moment of a run
* `Run.duplicates_iff` : a source has two hooks exactly if it has one whose number was lost, and
  another one
-/

namespace HookRelay.Controller

open Hook (Held Synced)

variable {W : Type}

/-- A look at a source: a `reconcile` call, with the world that it begins in. -/
structure Look (W : Type) where
  now : Time.Instant
  /-- The source as it was read. -/
  source : Source
  /-- The world in which the look begins. -/
  before : W

/-- GitLab holds a hook. -/
def Sight.Holds (v : Sight W) (w : W) (id : Int) : Prop :=
  ∃ hooks, v.gitlab w = some hooks ∧ (hooks id).isSome

variable (c : Controller W) (v : Sight W)

namespace Look

variable (l : Look W)

/-- What the look answers. -/
def answer : Except Error (Option Nat) := (c.reconcile l.now l.source l.before).1

/-- The world behind the look. -/
def after : W := (c.reconcile l.now l.source l.before).2

/-- A hook is there behind the look that was not there before. -/
def Creates (id : Int) : Prop := ¬v.Holds l.before id ∧ v.Holds (l.after c) id

/-- A hook is created, and what is stored behind the look has not its number as `webhookId`. -/
def Loses (id : Int) : Prop := l.Creates c v id ∧ v.recorded (l.after c) ≠ some id

/-- The cluster refused the status that the look arrived at: its `PATCH` of `/status` failed. -/
def Unsaved : Prop := ∃ e, l.answer c = .error (.apply (.cluster e))

end Look

/-- **Looks at a source**, the latest first, and the world behind them. Each begins with what the
cluster stores, and a source that is being deleted stays so. Between two looks anything may happen
but to the hooks and the stored status. -/
inductive Run : List (Look W) → W → Prop where
  | start {w : W} {hooks : Held} (up : v.gitlab w = some hooks) : Run [] w
  | look {looks : List (Look W)} {l : Look W} (run : Run looks l.before)
      (shown : v.Shows l.before l.source)
      (final : (∃ l' ∈ looks, l'.source.metadata.deleting = true) →
        l.source.metadata.deleting = true) : Run (l :: looks) (l.after c)
  | meanwhile {looks : List (Look W)} {w w' : W} (run : Run looks w)
      (same : v.both w' = v.both w) : Run looks w'

/-- A hook that was created for the source, and is there. -/
def Left (looks : List (Look W)) (w : W) (id : Int) : Prop :=
  (∃ l ∈ looks, l.Creates c v id) ∧ v.Holds w id

/-- A hook whose number was lost. -/
def Lost (looks : List (Look W)) (id : Int) : Prop := ∃ l ∈ looks, l.Loses c v id

/-- **What is known of the hooks that were created**: all that are left are lost but for one, which
is recorded as long as the source is not being deleted. -/
structure Ledger (looks : List (Look W)) (w : W) (hooks : Held) : Prop where
  up : v.gitlab w = some hooks
  unsaved : ∀ l ∈ looks, ∀ id, l.Loses c v id → l.Unsaved c
  lost : ∀ id, Lost c v looks id → (hooks id).isSome ∧ v.recorded w ≠ some id
  others : ∃ current : Option Int,
    ((∀ l ∈ looks, l.source.metadata.deleting = false) → v.recorded w = current) ∧
    ∀ id, Left c v looks w id → current = some id ∨ Lost c v looks id

variable {c v} {looks : List (Look W)} {w w' : W} {hooks hooks' : Held} {s : Source} {id : Int}

theorem holds_iff (up : v.gitlab w = some hooks) : v.Holds w id ↔ (hooks id).isSome := by
  constructor
  · rintro ⟨held, here, isSome⟩
    rw [up] at here
    rwa [Option.some.inj here]
  · intro isSome
    exact ⟨hooks, up, isSome⟩

section Cons

variable {l : Look W}

theorem lost_cons : Lost c v (l :: looks) id ↔ l.Loses c v id ∨ Lost c v looks id :=
  List.exists_mem_cons_iff ..

theorem Lost.cons (lost : Lost c v looks id) : Lost c v (l :: looks) id :=
  lost_cons.2 (.inr lost)

/-- Of the hooks that are left behind a look, those that it did not create were there before. -/
theorem left_cons (left : Left c v (l :: looks) (l.after c) id) :
    l.Creates c v id ∨ Left c v looks l.before id := by
  obtain ⟨created, here⟩ := left
  obtain created | earlier := List.exists_mem_cons_iff .. |>.1 created
  · exact .inl created
  · by_cases before : v.Holds l.before id
    · exact .inr ⟨earlier, before⟩
    · exact .inl ⟨before, here⟩

end Cons

/-! ## What one look does to the ledger -/

namespace Ledger

variable {l : Look W}

/-- A look in which no hook appears, and none goes but the recorded one. -/
theorem keeps (ledger : Ledger c v looks l.before hooks)
    (up : v.gitlab (l.after c) = some hooks')
    (thinned : ∀ id, (hooks' id).isSome → (hooks id).isSome)
    (stays : ∀ id, v.recorded l.before ≠ some id → (hooks id).isSome → (hooks' id).isSome)
    (recorded : v.recorded (l.after c) = v.recorded l.before ∨
      l.source.metadata.deleting = true ∧ v.recorded (l.after c) = none) :
    Ledger c v (l :: looks) (l.after c) hooks' := by
  -- no hook appears, so the look adds neither to those created nor to those lost
  have createsNone : ∀ id, ¬l.Creates c v id := by
    intro id ⟨absent, here⟩
    exact absent ((holds_iff ledger.up).2 (thinned id ((holds_iff up).1 here)))
  refine ⟨up, ?_, ?_, ?_⟩
  · intro l' mem id loses
    obtain rfl | earlier := List.mem_cons.1 mem
    · exact absurd loses.1 (createsNone id)
    · exact ledger.unsaved l' earlier id loses
  · intro id lost
    obtain loses | earlier := lost_cons.1 lost
    · exact absurd loses.1 (createsNone id)
    · obtain ⟨here, unrecorded⟩ := ledger.lost id earlier
      refine ⟨stays id unrecorded here, ?_⟩
      obtain same | ⟨-, blank⟩ := recorded
      · rwa [same]
      · rw [blank]
        exact nofun
  · obtain ⟨current, known, others⟩ := ledger.others
    refine ⟨current, fun standing => ?_, fun id left => ?_⟩
    · obtain same | ⟨deleting, -⟩ := recorded
      · exact same.trans (known fun l' mem => standing l' (List.mem_cons_of_mem l mem))
      · rw [standing l (List.mem_cons_self ..)] at deleting
        cases deleting
    · obtain created | earlier := left_cons left
      · exact absurd created (createsNone id)
      · exact (others id earlier).imp_right Lost.cons

/-- A look in which a hook appears, while no recorded hook is there. -/
theorem creates {options : Hook.Options} (ledger : Ledger c v looks l.before hooks)
    (standing : ∀ l' ∈ looks, l'.source.metadata.deleting = false) (fresh : hooks id = none)
    (gone : ∀ previous, v.recorded l.before = some previous → hooks previous = none)
    (up : v.gitlab (l.after c) = some (Function.update hooks id (some options)))
    (saved : v.recorded (l.after c) = some id ∨
      v.recorded (l.after c) = v.recorded l.before ∧ l.Unsaved c) :
    Ledger c v (l :: looks) (l.after c) (Function.update hooks id (some options)) := by
  -- the one hook that appears is the only one that the look creates, and it was not lost before
  have created : ∀ other, l.Creates c v other → other = id := by
    intro other ⟨absent, here⟩
    by_contra ne
    rw [holds_iff up, Function.update_of_ne ne] at here
    exact absent ((holds_iff ledger.up).2 here)
  have apart : ∀ other, (hooks other).isSome → other ≠ id := by
    rintro other here rfl
    rw [fresh] at here
    cases here
  refine ⟨up, ?_, ?_, ?_⟩
  · intro l' mem other loses
    obtain rfl | earlier := List.mem_cons.1 mem
    · obtain stored | ⟨-, unsaved⟩ := saved
      · rw [created other loses.1] at loses
        exact absurd stored loses.2
      · exact unsaved
    · exact ledger.unsaved l' earlier other loses
  · intro other lost
    obtain loses | earlier := lost_cons.1 lost
    · obtain rfl := created other loses.1
      rw [Function.update_self]
      exact ⟨rfl, loses.2⟩
    · obtain ⟨here, unrecorded⟩ := ledger.lost other earlier
      have ne := apart other here
      refine ⟨by rwa [Function.update_of_ne ne], ?_⟩
      obtain stored | ⟨unstored, -⟩ := saved
      · rw [stored]
        exact fun same => ne (Option.some.inj same).symm
      · rwa [unstored]
  · obtain ⟨current, known, others⟩ := ledger.others
    have known := known standing
    refine ⟨v.recorded (l.after c), fun _ => rfl, fun other left => ?_⟩
    obtain new | earlier := left_cons left
    · by_cases stored : v.recorded (l.after c) = some other
      · exact .inl stored
      · exact .inr (lost_cons.2 (.inl ⟨new, stored⟩))
    · -- the recorded hook was gone, so what was there before had been lost
      obtain recorded | lost := others other earlier
      · have here := (holds_iff ledger.up).1 earlier.2
        rw [gone other (known.trans recorded)] at here
        cases here
      · exact .inr lost.cons

/-- A look that makes a hook as it should be. -/
theorem synced {outcome : Hook.Outcome} {options : Hook.Options}
    (ledger : Ledger c v looks l.before hooks)
    (standing : ∀ l' ∈ looks, l'.source.metadata.deleting = false)
    (synced : Synced hooks (v.recorded l.before) outcome)
    (up : v.gitlab (l.after c) = some (Function.update hooks outcome.id (some options)))
    (saved : v.recorded (l.after c) = some outcome.id ∨
      v.recorded (l.after c) = v.recorded l.before ∧ l.Unsaved c) :
    Ledger c v (l :: looks) (l.after c) (Function.update hooks outcome.id (some options)) := by
  generalize recorded : v.recorded l.before = previous at synced
  cases synced with
  | @updated id here =>
    refine ledger.keeps up ?_ ?_ ?_
    · intro other here'
      by_cases same : other = id
      · rwa [same]
      · rwa [Hook.Outcome.id, Function.update_of_ne same] at here'
    · intro other _ here'
      by_cases same : other = id
      · rw [same, Hook.Outcome.id, Function.update_self]
        rfl
      · rwa [Hook.Outcome.id, Function.update_of_ne same]
    · obtain stored | ⟨unstored, -⟩ := saved
      · exact .inl (stored.trans recorded.symm)
      · exact .inl unstored
  | created fresh =>
    refine ledger.creates standing fresh (fun previous known => ?_) up saved
    rw [recorded] at known
    cases known
  | recreated gone fresh =>
    refine ledger.creates standing fresh (fun previous known => ?_) up saved
    rw [recorded] at known
    cases known
    exact gone

/-- A look that takes the source down. -/
theorem released (ledger : Ledger c v looks l.before hooks)
    (deleting : l.source.metadata.deleting = true)
    (left : v.gitlab (l.after c) = some hooks ∨ ∃ id, v.recorded l.before = some id ∧
      v.gitlab (l.after c) = some (Function.update hooks id none))
    (recorded : v.recorded (l.after c) = v.recorded l.before ∨ v.recorded (l.after c) = none) :
    ∃ hooks', Ledger c v (l :: looks) (l.after c) hooks' := by
  have recorded := recorded.imp_right fun blank => And.intro deleting blank
  obtain left | ⟨id, known, left⟩ := left
  · exact ⟨hooks, ledger.keeps left (fun _ here => here) (fun _ _ here => here) recorded⟩
  · refine ⟨_, ledger.keeps left ?_ ?_ recorded⟩
    · intro other here
      by_cases same : other = id
      · rw [same, Function.update_self] at here
        cases here
      · rwa [Function.update_of_ne same] at here
    · intro other unrecorded here
      have ne : other ≠ id := by
        rintro rfl
        exact unrecorded known
      rwa [Function.update_of_ne ne]

/-- A run that begins. -/
theorem start (up : v.gitlab w = some hooks) : Ledger c v [] w hooks where
  up := up
  unsaved _ mem := absurd mem List.not_mem_nil
  lost id lost := by
    obtain ⟨l, mem, -⟩ := lost
    cases mem
  others := by
    refine ⟨v.recorded w, fun _ => rfl, fun id left => ?_⟩
    obtain ⟨⟨l, mem, -⟩, -⟩ := left
    cases mem

/-- Nothing happens to the hooks and the stored status. -/
theorem moved (ledger : Ledger c v looks w hooks) (same : v.both w' = v.both w) :
    Ledger c v looks w' hooks := by
  have gitlab : v.gitlab w' = v.gitlab w := congrArg Prod.snd same
  have recorded : v.recorded w' = v.recorded w :=
    Sight.recorded_of_status (congrArg Prod.fst same)
  have holds : ∀ id, v.Holds w' id → v.Holds w id := by
    rintro id ⟨held, here⟩
    rw [gitlab] at here
    exact ⟨held, here⟩
  obtain ⟨current, known, others⟩ := ledger.others
  refine ⟨gitlab.trans ledger.up, ledger.unsaved, ?_, current, ?_, ?_⟩
  · rw [recorded]
    exact ledger.lost
  · rw [recorded]
    exact known
  · rintro id ⟨created, here⟩
    exact others id ⟨created, holds id here⟩

end Ledger

/-- **What is known of the hooks holds at every moment of a run.** -/
theorem Run.ledger (lawful : c.Lawful v) (run : Run c v looks w) :
    ∃ hooks, Ledger c v looks w hooks := by
  induction run with
  | start up => exact ⟨_, .start up⟩
  | @look looks l run shown final ih =>
    obtain ⟨hooks, ledger⟩ := ih
    have effect : Effect v l.source l.before hooks (l.Unsaved c) (l.after c) :=
      reconcile_effect lawful shown ledger.up
    cases effect with
    | quiet left recorded =>
      exact ⟨hooks, ledger.keeps left (fun _ here => here) (fun _ _ here => here)
        (.inl recorded)⟩
    | synced standing synced left saved =>
      -- deletion is final, so no earlier look was at a source that is being deleted
      have standing : ∀ l' ∈ looks, l'.source.metadata.deleting = false := by
        intro l' mem
        by_contra deleting
        rw [final ⟨l', mem, eq_true_of_ne_false deleting⟩] at standing
        cases standing
      exact ⟨_, ledger.synced standing synced left saved⟩
    | released deleting left recorded => exact ledger.released deleting left recorded
  | meanwhile run same ih =>
    obtain ⟨hooks, ledger⟩ := ih
    exact ⟨hooks, ledger.moved same⟩

/-- **When a source has two hooks**: exactly if one was created by a look whose status the cluster
refused, and another one is there that was created for the source. -/
theorem Run.duplicates_iff (lawful : c.Lawful v) (run : Run c v looks w) :
    (∃ i j, i ≠ j ∧ Left c v looks w i ∧ Left c v looks w j) ↔
      ∃ l ∈ looks, l.Unsaved c ∧ ∃ i, l.Loses c v i ∧ ∃ j, j ≠ i ∧ Left c v looks w j := by
  obtain ⟨hooks, ledger⟩ := run.ledger lawful
  constructor
  · rintro ⟨i, j, ne, leftI, leftJ⟩
    -- all but the current one are lost, so of two hooks one is
    obtain ⟨current, -, others⟩ := ledger.others
    obtain currentI | ⟨l, mem, loses⟩ := others i leftI
    · obtain currentJ | ⟨l, mem, loses⟩ := others j leftJ
      · rw [currentI] at currentJ
        exact absurd (Option.some.inj currentJ) ne
      · exact ⟨l, mem, ledger.unsaved l mem j loses, j, loses, i, ne, leftI⟩
    · exact ⟨l, mem, ledger.unsaved l mem i loses, i, loses, j, ne.symm, leftJ⟩
  · rintro ⟨l, mem, -, i, loses, j, ne, leftJ⟩
    have here := (ledger.lost i ⟨l, mem, loses⟩).1
    exact ⟨i, j, ne.symm, ⟨⟨l, mem, loses.1⟩, (holds_iff ledger.up).2 here⟩, leftJ⟩

end HookRelay.Controller

/-! ## A source with two hooks -/

namespace HookRelay.OneSource

open Controller

/-- A look whose status is refused. -/
def refused : Look OneSource := ⟨⟨0⟩, source, before⟩

/-- The next look, with a cluster that stores statuses again. -/
def repeated : Look OneSource :=
  ⟨⟨60⟩, source, { refused.after controller with refusing := false }⟩

theorem refused_after : (refused.after controller).object = blank ∧
    ((refused.after controller).memory.hooks.held 1).isSome = true ∧
    ((refused.after controller).memory.hooks.held 2).isSome = false := by
  decide +kernel

theorem repeated_after : ((repeated.after controller).memory.hooks.held 1).isSome = true ∧
    ((repeated.after controller).memory.hooks.held 2).isSome = true := by
  decide +kernel

theorem up_before : before.memory.hooks.Up := ⟨rfl, rfl, fun _ _ => rfl⟩

theorem object_accepting (w : OneSource) : { w with refusing := false }.object = w.object := rfl

theorem both_accepting (w : OneSource) :
    sight.both { w with refusing := false } = sight.both w := rfl

theorem holds_accepting (w : OneSource) (id : Int) :
    sight.Holds { w with refusing := false } id ↔ sight.Holds w id := Iff.rfl

theorem run_refused : Run controller sight [refused] (refused.after controller) := by
  refine .look (.start up_before.served) (shows_before rfl) ?_
  rintro ⟨l, mem, -⟩
  cases mem

theorem run_accepting : Run controller sight [refused] repeated.before :=
  .meanwhile run_refused (both_accepting _)

theorem run_repeated :
    Run controller sight [repeated, refused] (repeated.after controller) := by
  refine .look run_accepting (shows_before ?_) ?_
  · exact (object_accepting _).trans refused_after.1
  rintro ⟨l, mem, deleting⟩
  rw [List.mem_singleton.1 mem] at deleting
  cases deleting

theorem holds_of_run {looks : List (Look OneSource)} {w : OneSource} {id : Int}
    (run : Run controller sight looks w) :
    sight.Holds w id ↔ (w.memory.hooks.held id).isSome := by
  obtain ⟨hooks, ledger⟩ := run.ledger lawful
  obtain ⟨-, rfl⟩ := Hook.Store.up_of_served ledger.up
  exact holds_iff ledger.up

theorem creates_refused : refused.Creates controller sight 1 := by
  constructor
  · intro here
    have here := (holds_of_run (.start up_before.served)).1 here
    cases here
  · exact (holds_of_run run_refused).2 refused_after.2.1

theorem creates_repeated : repeated.Creates controller sight 2 := by
  constructor
  · intro here
    have here := (holds_of_run run_refused).1 ((holds_accepting _ 2).1 here)
    rw [refused_after.2.2] at here
    cases here
  · exact (holds_of_run run_repeated).2 repeated_after.2

/-- The hook of the refused look is still there. -/
theorem left_refused :
    Left controller sight [repeated, refused] (repeated.after controller) 1 :=
  ⟨⟨refused, by simp, creates_refused⟩, (holds_of_run run_repeated).2 repeated_after.1⟩

/-- The next look created another one. -/
theorem left_repeated :
    Left controller sight [repeated, refused] (repeated.after controller) 2 :=
  ⟨⟨repeated, by simp, creates_repeated⟩, (holds_of_run run_repeated).2 repeated_after.2⟩

/-- **One refused status is enough for two hooks**: the looks begin with the same stored source,
GitLab is up, and behind them it holds two hooks that were created for the source. -/
theorem two_hooks_after_refusal : controller.Lawful sight ∧
    Run controller sight [repeated, refused] (repeated.after controller) ∧
    Left controller sight [repeated, refused] (repeated.after controller) 1 ∧
    Left controller sight [repeated, refused] (repeated.after controller) 2 :=
  ⟨lawful, run_repeated, left_refused, left_repeated⟩

theorem number_lost_by_refusal : ∃ l ∈ [repeated, refused], l.Unsaved controller ∧
    ∃ i, l.Loses controller sight i ∧
      ∃ j, j ≠ i ∧ Left controller sight [repeated, refused] (repeated.after controller) j :=
  (Run.duplicates_iff lawful run_repeated).1 ⟨1, 2, by decide, left_refused, left_repeated⟩

end HookRelay.OneSource

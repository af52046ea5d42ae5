import HookRelay.Proofs.Controller.Entries
import HookRelay.Proofs.Controller.OneSource
import HookRelay.Proofs.Pass.Parting

/-!
# No hook outlives its source in silence

From the moment that a source is created, the controller looks at it again and again, until the
mark is taken off and the source may go. Calls may fail at any point: secrets may not be readable,
GitLab may refuse, the cluster may refuse to store the status of a source that is being deleted, or
to take off the mark, and then the source is taken down once more. Still, when the controller asks
for the mark to be taken off, every hook that it created is gone, or somebody was told that it was
left on GitLab.

The reason is the same at every moment: of the hooks that were created, those that are there are
recorded or were told of. A look at a source that is to stay creates a hook only if the recorded one
is gone, and stores its number; a look at one that is to go parts from the recorded hook first, and
then asks for the mark to be taken off. That the number is not stored any more does no harm then.

## Main definitions

* `Allowed` : what may be asked of collaborators while the controller looks at a source
* `Faithful` : hooks are kept and removed, and nobody but the controller writes the status
* `Life` : looks at a source, from its creation
* `Due`, `Accounted` : what may follow on a log, and what is known at every moment

## Main statements

* `Accounted.look` : one look
* `Life.accounted` : a whole life
* `Life.no_silent_hook` : no hook outlives its source in silence
-/

namespace HookRelay.Controller

open Cluster (Request)
open Hook (Held thinning)

variable {W : Type}

/-- **What may be asked of collaborators while the controller looks at a source.** Only for a source
that carries the finalizer, the `mark`, secrets are read, adapters are created and GitLab is called.
Hooks are created and edited for a source that is to stay, and deleted for one that is to go. -/
def Allowed (s : Source) : Pass.Call → Prop
  | .readSecret _ _ _ | .createAdapter _ _ | .openClient _ _ _ | .getHook _ _ =>
    (markIndex? s).isSome
  | .createHook _ _ | .editHook _ _ _ =>
    (markIndex? s).isSome ∧ s.metadata.deleting = false
  | .deleteHook _ _ => (markIndex? s).isSome ∧ s.metadata.deleting = true
  | .resolveSink _ _ _ | .listAdapters _ _ | .publish _ | .count _ => True

/-! ## What a log says -/

namespace Entry

/-- The number of the hook that was created. -/
def made? : Entry W → Option Int
  | asked call => call.made?
  | began _ | sent _ _ => none

/-- The source of a look that began. -/
def source? : Entry W → Option Source
  | began s => some s
  | asked _ | sent _ _ => none

/-- An entry that a look at a source may add anywhere. -/
def Fits (s : Source) : Entry W → Prop
  | began _ => False
  | asked call => Allowed s call
  | sent r _ => ∀ index, r.content ≠ .operations (takeMark index)

end Entry

/-- The numbers of the hooks that were created. -/
def created (log : List (Entry W)) : List Int := log.filterMap Entry.made?

/-- The source of the latest look. -/
def looking? (log : List (Entry W)) : Option Source := log.findSome? Entry.source?

/-- Somebody was told that a hook was left on GitLab, by a `WebhookAbandoned` notice. -/
def Told (log : List (Entry W)) (id : Int) : Prop := ∃ call, .asked call ∈ log ∧ call.TellsOf id

/-- **What may follow on a log.** What is asked has to be allowed for the source of the latest
look, and the mark may only be taken off when every hook that was created is gone, or somebody was
told of it. -/
def Due (hooks : W → Held) (log : List (Entry W)) : Entry W → Prop
  | .began _ => True
  | .asked call => ∃ s, looking? log = some s ∧ Allowed s call
  | .sent r w => ∀ index, r.content = .operations (takeMark index) →
    ∀ id ∈ created log, hooks w id = none ∨ Told log id

/-- Every entry of a log was due where it stands. -/
def Sound (hooks : W → Held) : List (Entry W) → Prop
  | [] => True
  | e :: log => Due hooks log e ∧ Sound hooks log

section Logs

variable {hooks : W → Held} {s : Source} {e : Entry W} {log new : List (Entry W)} {id : Int}
  {calls : List Pass.Call}

theorem Sound.due (sound : Sound hooks log) {former : List (Entry W)}
    (here : (e :: former) <:+ log) : Due hooks former e := by
  induction log with
  | nil => cases List.suffix_nil.1 here
  | cons latest log ih =>
    obtain same | earlier := List.suffix_cons_iff.1 here
    · obtain ⟨rfl, rfl⟩ := List.cons.inj same
      exact sound.1
    · exact ih sound.2 earlier

theorem Told.append (told : Told log id) (new : List (Entry W)) : Told (new ++ log) id := by
  obtain ⟨call, mem, tells⟩ := told
  exact ⟨call, List.mem_append_right new mem, tells⟩

theorem looking?_append (fits : ∀ e ∈ new, e.Fits s) : looking? (new ++ log) = looking? log := by
  induction new with
  | nil => rfl
  | cons e new ih =>
    have rest := ih fun e mem => fits e (List.mem_cons_of_mem _ mem)
    have fit := fits e (List.mem_cons_self ..)
    cases e with
    | began _ => cases fit
    | asked _ | sent _ _ => exact rest

/-- What fits the source of the latest look may be added to a log. -/
theorem Sound.append (sound : Sound hooks log) (looking : looking? log = some s)
    (fits : ∀ e ∈ new, e.Fits s) : Sound hooks (new ++ log) := by
  induction new with
  | nil => exact sound
  | cons e new ih =>
    have fits' : ∀ e ∈ new, e.Fits s := fun e mem => fits e (List.mem_cons_of_mem _ mem)
    refine ⟨?_, ih fits'⟩
    have fit := fits e (List.mem_cons_self ..)
    cases e with
    | began _ => cases fit
    | asked call => exact ⟨s, (looking?_append fits').trans looking, fit⟩
    | sent r w => exact fun index takes => absurd takes (fit index)

theorem created_append : created (new ++ log) = created new ++ created log :=
  List.filterMap_append

theorem created_asked :
    created (calls.map Entry.asked ++ log) = Pass.made calls ++ created log := by
  rw [created_append, created, List.filterMap_map]
  rfl

theorem fits_asked (allowed : ∀ call ∈ calls, Allowed s call) :
    ∀ e ∈ calls.map (Entry.asked : Pass.Call → Entry W), e.Fits s := by
  intro e mem
  obtain ⟨call, asked, rfl⟩ := List.mem_map.1 mem
  exact allowed call asked

theorem told_asked (told : ∃ call ∈ calls, call.TellsOf id) :
    Told (calls.map Entry.asked ++ log) id := by
  obtain ⟨call, mem, tells⟩ := told
  exact ⟨call, List.mem_append_left _ (List.mem_map_of_mem mem), tells⟩

end Logs

/-! ## What is known at every moment -/

/-- **All hooks that were created are accounted for**: those that are there are the `current` one,
or somebody was told of them; and every entry of the log was due. -/
structure Accounted (hooks : W → Held) (current : Option Int) (x : W × List (Entry W)) : Prop where
  sound : Sound hooks x.2
  known : ∀ id ∈ created x.2, (hooks x.1 id).isSome → current = some id ∨ Told x.2 id

/-- All hooks are accounted for in the midst of a look at a source. -/
structure Amid (hooks : W → Held) (s : Source) (current : Option Int)
    (x : W × List (Entry W)) : Prop extends Accounted hooks current x where
  looking : looking? x.2 = some s

/-- What may happen to a recorded world meanwhile: no hook appears, and what is recorded fits the
look. -/
def calm (hooks : W → Held) (s : Source) : Drift (W × List (Entry W)) where
  rel x x' := (thinning hooks).rel x.1 x'.1 ∧
    ∃ new, x'.2 = new ++ x.2 ∧ created new = [] ∧ ∀ e ∈ new, e.Fits s
  refl x := ⟨(thinning hooks).refl x.1, [], rfl, rfl, fun _ none => (nomatch none)⟩
  trans := by
    rintro x x₁ x₂ ⟨thinned₁, new₁, log₁, none₁, fits₁⟩ ⟨thinned₂, new₂, log₂, none₂, fits₂⟩
    refine ⟨(thinning hooks).trans thinned₁ thinned₂, new₂ ++ new₁, ?_, ?_, ?_⟩
    · rw [log₂, log₁, List.append_assoc]
    · rw [created_append, none₁, none₂]
      rfl
    · intro e mem
      exact (List.mem_append.1 mem).elim (fits₂ e) (fits₁ e)

section Accounted

variable {hooks : W → Held} {s : Source} {current current' : Option Int} {w w' : W}
  {log new : List (Entry W)} {x x' : W × List (Entry W)}

/-- Nothing is asked of a source without a current hook. -/
theorem Accounted.weaken (accounted : Accounted hooks none x) : Accounted hooks current x := by
  refine ⟨accounted.sound, fun id mem here => ?_⟩
  obtain none | told := accounted.known id mem here
  · cases none
  · exact .inr told

theorem Accounted.begin (accounted : Accounted hooks current (w, log)) (s : Source) :
    Amid hooks s current (w, .began s :: log) where
  sound := ⟨trivial, accounted.sound⟩
  known id mem here := (accounted.known id mem here).imp_right fun told => told.append [.began s]
  looking := rfl

namespace Amid

/-- The log grows by what fits the look. -/
theorem grow (amid : Amid hooks s current (w, log)) (fits : ∀ e ∈ new, e.Fits s)
    (known : ∀ id ∈ created (new ++ log), (hooks w' id).isSome →
      current' = some id ∨ Told (new ++ log) id) : Amid hooks s current' (w', new ++ log) where
  sound := amid.sound.append amid.looking fits
  known := known
  looking := (looking?_append fits).trans amid.looking

theorem calm (amid : Amid hooks s current x) (moved : (calm hooks s).rel x x') :
    Amid hooks s current x' := by
  obtain ⟨w, log⟩ := x
  obtain ⟨w', log'⟩ := x'
  obtain ⟨thinned, new, grown, none, fits⟩ := moved
  have grown : log' = new ++ log := grown
  subst grown
  refine amid.grow fits fun id mem here => ?_
  rw [created_append, none, List.nil_append] at mem
  exact (amid.known id mem (thinned id here)).imp_right fun told => told.append new

end Amid

end Accounted

/-! ## What is said of the world -/

/-- **Hooks are kept and removed (`Provider.Keeps`, `Provider.Removes`), and nobody but the
controller writes the status of a source.** No hook of the scope appears but those that GitLab says
it created, and one that GitLab says is deleted or missing is gone. The cluster stores a status that
it is sent, or answers with an error, or both. All else may end in any way. -/
structure Faithful (c : Controller W) (v : Sight W) (hooks : W → Held) : Prop where
  keeps : c.team.KeepsHooks v.scope hooks
  removes : c.team.hooks.Removes v.scope hooks
  apart : c.team.Throughout (Drift.fixing v.status)
  thins : ∀ r, (c.api.send r).Within (thinning hooks)
  saves : ∀ {path query patch w w' r}, Cluster.target? v.place = some (path, query) →
    c.api.send ⟨path, query, .merge patch⟩ w = (r, w') → Taken v patch w r w'
  /-- Only when the mark is taken off, the source may be gone with its status. -/
  marks : ∀ r s, r.content = .operations (putMark s) →
    (c.api.send r).Within (Drift.fixing v.status)
  registry : ∀ g w, (thinning hooks).rel w (c.registry.set g w) ∧
    v.status (c.registry.set g w) = v.status w

/-- **Looks at a source from its creation**, each a `reconcile` call, with the log of what was done.
Each look begins with what the cluster stores, and the cluster does not refuse the status of a
source that is to stay. Between two looks anything may happen but to the stored status, and no hook
that was created comes back. -/
inductive Life (c : Controller W) (v : Sight W) (hooks : W → Held) :
    W × List (Entry W) → Prop where
  | start {w : W} : Life c v hooks (w, [])
  | look {w : W} {log : List (Entry W)} (life : Life c v hooks (w, log)) (now : Time.Instant)
      {s : Source} (shown : v.Shows w s)
      (saved : s.metadata.deleting = false →
        ∀ e, (c.reconcile now s w).1 ≠ .error (.apply (.cluster e))) :
      Life c v hooks (c.recorded.reconcile now s (w, .began s :: log)).2
  | meanwhile {x : W × List (Entry W)} {w : W} (life : Life c v hooks x)
      (status : v.status w = v.status x.1)
      (gone : ∀ id ∈ created x.2, (hooks w id).isSome → (hooks x.1 id).isSome) :
      Life c v hooks (w, x.2)

variable {c : Controller W} {v : Sight W} {hooks : W → Held} {s : Source} {now : Time.Instant}
  {w : W} {log : List (Entry W)} {x : W × List (Entry W)} {current : Option Int}

/-! ## What a look does beside its pass -/

theorem putMark_ne_takeMark (s : Source) (index : Nat) : putMark s ≠ takeMark index := by
  unfold putMark takeMark
  split
  · intro same
    have adds := (List.cons.inj (List.cons.inj same).2).1
    cases adds
  · intro same
    have adds := (List.cons.inj (List.cons.inj same).2).1
    cases adds

section Beside

variable (faithful : c.Faithful v hooks)
include faithful

theorem calm_count (n : Counter) : (c.recorded.team.count n).Within (calm hooks s) := by
  intro x
  refine ⟨faithful.keeps.others.counters n x.1, [.asked (.count n)], rfl, rfl, fun e mem => ?_⟩
  rw [List.mem_singleton.1 mem]
  trivial

theorem calm_send {r : Request} (other : ∀ index, r.content ≠ .operations (takeMark index)) :
    (c.recorded.api.send r).Within (calm hooks s) := by
  intro x
  refine ⟨faithful.thins r x.1, [.sent r x.1], rfl, rfl, fun e mem => ?_⟩
  rw [List.mem_singleton.1 mem]
  exact other

theorem calm_settle (r : Requeue) : (c.recorded.settle s r).Within (calm hooks s) := by
  refine within_settle (fun g x => ?_) (calm_count faithful) s r
  exact ⟨(faithful.registry g x.1).1, [], rfl, rfl, fun _ none => (nomatch none)⟩

theorem calm_markSource : (c.recorded.markSource s).Within (calm hooks s) := by
  refine within_markSource fun r puts => calm_send faithful fun index takes => ?_
  rw [puts] at takes
  exact putMark_ne_takeMark s index (Request.Content.operations.inj takes)

theorem calm_saveStatus (st : Source.Status) :
    (c.recorded.saveStatus s st).Within (calm hooks s) := by
  refine within_saveStatus (fun r patch merges => calm_send faithful fun index takes => ?_) s st
  rw [merges] at takes
  cases takes

/-- The mark is only asked to be taken off when no hook is left that nobody was told of. -/
theorem amid_takeMark (amid : Amid hooks s none (w, log)) (name : String) (index : Nat) :
    Amid hooks s none (c.recorded.changeMarks s name (takeMark index) (w, log)).2 := by
  have same : (c.recorded.changeMarks s name (takeMark index) (w, log)).2 =
      (Source.change c.recorded.api s.namespaceOrEmpty name (takeMark index) (w, log)).2 := by
    unfold changeMarks
    rw [Act.bind_apply]
    cases (Source.change c.recorded.api s.namespaceOrEmpty name (takeMark index) (w, log)).1 <;> rfl
  rw [same]
  unfold Source.change
  obtain unsent | ⟨r, takes, sent⟩ := change_recorded c (Source.resource.path s.namespaceOrEmpty)
    name "" (.operations (takeMark index)) Source.record.decode w log
  · rw [unsent]
    exact amid
  · rw [sent]
    have told : ∀ id ∈ created log, hooks w id = none ∨ Told log id := by
      intro id mem
      cases here : hooks w id with
      | none => exact .inl rfl
      | some options =>
        obtain none | told := amid.known id mem (by rw [here]; rfl)
        · cases none
        · exact .inr told
    refine ⟨⟨⟨fun _ _ => told, amid.sound⟩, fun id mem here => ?_⟩, amid.looking⟩
    have before := amid.known id mem (faithful.thins r w id here)
    exact before.imp_right fun told => told.append [.sent r w]

end Beside

/-! ## What the passes do -/

theorem allowed_of_isForward (marked : (markIndex? s).isSome)
    (standing : s.metadata.deleting = false) {call : Pass.Call} (forward : call.isForward = true) :
    Allowed s call := by
  cases call with
  | deleteHook _ _ => cases forward
  | createHook _ _ | editHook _ _ _ => exact ⟨marked, standing⟩
  | readSecret _ _ _ | createAdapter _ _ | openClient _ _ _ | getHook _ _ => exact marked
  | resolveSink _ _ _ | listAdapters _ _ | publish _ | count _ => trivial

theorem allowed_of_isBackward (marked : (markIndex? s).isSome)
    (deleting : s.metadata.deleting = true) {call : Pass.Call} (backward : call.isBackward = true) :
    Allowed s call := by
  cases call with
  | createHook _ _ | editHook _ _ _ => cases backward
  | deleteHook _ _ => exact ⟨marked, deleting⟩
  | readSecret _ _ _ | createAdapter _ _ | openClient _ _ _ | getHook _ _ => exact marked
  | resolveSink _ _ _ | listAdapters _ _ | publish _ | count _ => trivial

theorem made_of_isBackward {calls : List Pass.Call}
    (backward : ∀ call ∈ calls, call.isBackward = true) : Pass.made calls = [] := by
  refine List.filterMap_eq_nil_iff.2 fun call mem => ?_
  have kind := backward call mem
  cases call with
  | createHook _ _ => cases kind
  | _ => rfl

/-- A pass that renews the recorded hook leaves no hook behind that nobody was told of. -/
theorem Amid.renews {w' : W} {calls : List Pass.Call} {next : Option Int}
    (amid : Amid hooks s current (w, log)) (allowed : ∀ call ∈ calls, Allowed s call)
    (renews : Pass.Renews hooks current (w, []) next (w', calls)) :
    Amid hooks s next (w', calls.map .asked ++ log) := by
  refine amid.grow (fits_asked allowed) fun id mem here => ?_
  rw [created_asked] at mem
  cases renews with
  | kept left none _ _ =>
    have none : Pass.made calls = [] := none
    rw [none, List.nil_append] at mem
    exact (amid.known id mem (left id here)).imp_right fun told => told.append _
  | @replaced new _ left one _ _ =>
    have one : Pass.made calls = [new] := one
    obtain rfl | ⟨before, other⟩ := left id here
    · exact .inl rfl
    · rw [one, List.singleton_append, List.mem_cons] at mem
      obtain rfl | mem := mem
      · exact .inl rfl
      -- an older hook would be the recorded one, which was missing
      · obtain recorded | told := amid.known id mem before
        · exact absurd recorded other
        · exact .inr (told.append _)

section Looks

variable (now) (faithful : c.Faithful v hooks) (known : v.Knows w s)
  (marked : (markIndex? s).isSome) (amid : Amid hooks s s.statusOrBlank.webhookId (w, log))
include faithful known marked amid

theorem amid_converge (standing : s.metadata.deleting = false) :
    Amid hooks s ((c.pass now s).converge w).1.status.webhookId
      (((c.pass now s).converge w).2, ((c.pass now s).calls w).map .asked ++ log) :=
  amid.renews (fun call mem => allowed_of_isForward marked standing
      (Pass.isForward_of_mem_calls _ w call mem))
    (Pass.converge_renews (p := c.pass now s) faithful.keeps known.inScope w)

theorem amid_finalize (deleting : s.metadata.deleting = true) :
    Amid hooks s s.statusOrBlank.webhookId
      (((c.pass now s).finalize w).2, ((c.pass now s).partings w).map .asked ++ log) := by
  have backward := Pass.isBackward_of_mem_partings (c.pass now s) w
  refine amid.grow (fits_asked fun call mem => ?_) fun id mem here => ?_
  · exact allowed_of_isBackward marked deleting (backward call mem)
  · rw [created_asked, made_of_isBackward backward, List.nil_append] at mem
    have before := Pass.finalize_thins (p := c.pass now s) faithful.keeps faithful.removes
      known.inScope w id here
    exact (amid.known id mem before).imp_right fun told => told.append _

/-- Behind a source that was taken down there is no current hook. -/
theorem amid_parted (deleting : s.metadata.deleting = true) (st : Source.Status)
    (ended : ((c.pass now s).finalize w).1 = .ok st) :
    Amid hooks s none
      (((c.pass now s).finalize w).2, ((c.pass now s).partings w).map .asked ++ log) := by
  have amid' := amid_finalize now faithful known marked amid deleting
  refine ⟨⟨amid'.sound, fun id mem here => .inr ?_⟩, amid'.looking⟩
  obtain recorded | told := amid'.known id mem here
  · obtain gone | told := Pass.gone_or_told (p := c.pass now s) faithful.keeps faithful.removes
      known.inScope ended recorded
    · have here : (hooks ((c.pass now s).finalize w).2 id).isSome := here
      rw [gone] at here
      cases here
    · exact told_asked told
  · exact told

end Looks

/-! ## What the looks do -/

/-- A source as the cluster stores it, whatever GitLab holds. -/
def Sight.offGitlab (v : Sight W) : Sight W := { v with gitlab := fun _ => none }

section Looks

variable (now) (faithful : c.Faithful v hooks)
include faithful

theorem saved_offGitlab (known : v.Knows w s) (st : Source.Status) :
    Saved v.offGitlab st w (c.saveStatus s st w).1 (c.saveStatus s st w).2 := by
  have saves : Saves c.api v.offGitlab := fun written sent => ⟨rfl, faithful.saves written sent⟩
  have known : v.offGitlab.Knows w s := ⟨known.1, known.2, known.3, known.4⟩
  exact saveStatus_saved saves known st

theorem recorded_count (n : Counter) (w : W) : v.recorded (c.team.count n w).2 = v.recorded w :=
  Sight.recorded_of_status (faithful.apart.others.counters n w)

theorem recorded_settle (r : Requeue) (w : W) : v.recorded (c.settle s r w).2 = v.recorded w := by
  have still : (c.settle s r).Within (Drift.fixing v.status) :=
    within_settle (fun g w => (faithful.registry g w).2) faithful.apart.others.counters s r
  exact Sight.recorded_of_status (still w)

/-- Behind a look at a source that is to stay its hook is recorded. -/
theorem amid_apply (known : v.Knows w s) (marked : (markIndex? s).isSome)
    (standing : s.metadata.deleting = false)
    (saved : ∀ e, (c.apply now s w).1 ≠ .error (.cluster e))
    (amid : Amid hooks s s.statusOrBlank.webhookId (w, log)) :
    Amid hooks s (v.recorded (c.recorded.apply now s (w, log)).2.1)
      (c.recorded.apply now s (w, log)).2 := by
  have amid₁ := amid_converge now faithful known marked amid standing
  have status : v.status ((c.pass now s).converge w).2 = v.status w :=
    Pass.within_converge (p := c.pass now s) faithful.apart w
  have known₁ := known.moved status
  unfold apply at saved ⊢
  rw [Act.bind_apply, converge_asked]
  rw [Act.bind_apply] at saved
  generalize (c.pass now s).converge w = ended at saved amid₁ known₁ ⊢
  obtain ⟨outcome, w₁⟩ := ended
  dsimp only at saved amid₁ known₁ ⊢
  rw [Act.bind_apply] at saved ⊢
  rcases stored : c.recorded.saveStatus s outcome.status
    (w₁, ((c.pass now s).calls w).map .asked ++ log) with ⟨answer, x₂⟩
  have plain := (saveStatus_recorded c s outcome.status).eq stored
  have amid₂ := amid₁.calm ((calm_saveStatus faithful outcome.status).moved stored)
  have left := saved_offGitlab faithful known₁ outcome.status
  dsimp only at plain
  rw [plain] at saved left
  rw [stored]
  cases answer with
  | error e => exact absurd rfl (saved e)
  | ok u =>
    -- the cluster did not refuse the status, so what it records is the hook of the pass
    have recorded : v.recorded x₂.1 = outcome.status.webhookId := by
      obtain stored | ⟨-, e, refused⟩ := left.recorded
      · exact stored
      · cases refused
    rw [← recorded] at amid₂
    dsimp only
    cases outcome.result with
    | error e => exact amid₂
    | ok requeue =>
      have settled := (settle_recorded c s requeue x₂).2
      have amid₃ := amid₂.calm (calm_settle faithful requeue x₂)
      rw [← recorded_settle (s := s) faithful requeue x₂.1, ← settled] at amid₃
      exact amid₃

/-- Behind a source that was taken down there is no current hook; otherwise its hook is still
recorded. -/
theorem amid_cleanup (known : v.Knows w s) (marked : (markIndex? s).isSome)
    (deleting : s.metadata.deleting = true)
    (amid : Amid hooks s s.statusOrBlank.webhookId (w, log)) :
    match (c.recorded.cleanup now s (w, log)) with
    | (.error _, x) => Amid hooks s (v.recorded x.1) x
    | (.ok _, x) => Amid hooks s none x := by
  have status : v.status ((c.pass now s).finalize w).2 = v.status w :=
    Pass.within_finalize (p := c.pass now s) faithful.apart w
  have amid₁ := amid_finalize now faithful known marked amid deleting
  have parted := amid_parted now faithful known marked amid deleting
  unfold cleanup
  rw [Act.bind_apply, finalize_asked]
  generalize (c.pass now s).finalize w = ended at status amid₁ parted ⊢
  obtain ⟨answer, w₁⟩ := ended
  cases answer with
  | error e =>
    have recorded : v.recorded w₁ = s.statusOrBlank.webhookId :=
      (Sight.recorded_of_status status).trans known.webhookId.symm
    rw [← recorded] at amid₁
    exact amid₁
  | ok st => exact (parted st rfl).calm (calm_saveStatus faithful st _)

/-- Behind a look at a source that is to go, its hook is recorded, or there is no current hook. -/
theorem amid_release (known : v.Knows w s) (marked : (markIndex? s).isSome)
    (deleting : s.metadata.deleting = true) (index : Nat)
    (amid : Amid hooks s s.statusOrBlank.webhookId (w, log)) :
    Amid hooks s (v.recorded (c.recorded.release now s index (w, log)).2.1)
      (c.recorded.release now s index (w, log)).2 := by
  unfold release
  cases s.metadata.name with
  | none =>
    rw [known.webhookId] at amid
    exact amid
  | some name =>
    have cleaned := amid_cleanup now faithful known marked deleting amid
    dsimp only
    rw [Act.bind_apply]
    generalize c.recorded.cleanup now s (w, log) = ended at cleaned ⊢
    obtain ⟨answer, w₁, log₁⟩ := ended
    cases answer with
    | error e => exact cleaned
    | ok delay =>
      have amid₂ := amid_takeMark faithful cleaned name index
      dsimp only
      rw [Act.bind_apply]
      generalize c.recorded.changeMarks s name (takeMark index) (w₁, log₁) = taken at amid₂ ⊢
      obtain ⟨answer, x₂⟩ := taken
      have accounted : Accounted hooks (v.recorded x₂.1) x₂ := amid₂.toAccounted.weaken
      cases answer with
      | error e => exact ⟨accounted, amid₂.looking⟩
      | ok u => exact ⟨accounted, amid₂.looking⟩

/-- A source that does not carry the mark is marked, and nothing else happens. -/
theorem amid_markSource (known : v.Knows w s)
    (amid : Amid hooks s s.statusOrBlank.webhookId (w, log)) :
    Amid hooks s (v.recorded (c.recorded.markSource s (w, log)).2.1)
      (c.recorded.markSource s (w, log)).2 := by
  have still : (c.markSource s).Within (Drift.fixing v.status) :=
    within_markSource fun r puts => faithful.marks r s puts
  have recorded : v.recorded (c.recorded.markSource s (w, log)).2.1 = v.recorded w := by
    rw [(markSource_recorded c s (w, log)).2]
    exact Sight.recorded_of_status (still w)
  rw [recorded, ← known.webhookId]
  exact amid.calm (calm_markSource faithful (w, log))

theorem amid_dispatch (known : v.Knows w s)
    (saved : s.metadata.deleting = false →
      ∀ e, (c.dispatch now s w).1 ≠ .error (.apply (.cluster e)))
    (amid : Amid hooks s s.statusOrBlank.webhookId (w, log)) :
    Amid hooks s (v.recorded (c.recorded.dispatch now s (w, log)).2.1)
      (c.recorded.dispatch now s (w, log)).2 := by
  unfold dispatch at saved ⊢
  cases marked : markIndex? s with
  | none =>
    cases deleting : s.metadata.deleting with
    | true =>
      rw [known.webhookId] at amid
      exact amid
    | false => exact amid_markSource faithful known amid
  | some index =>
    have isMarked : (markIndex? s).isSome := by rw [marked]; rfl
    cases deleting : s.metadata.deleting with
    | true => exact amid_release now faithful known isMarked deleting index amid
    | false =>
      have applied : ∀ e, (c.apply now s w).1 ≠ .error (.cluster e) := by
        intro e failed
        refine saved deleting e ?_
        rw [marked, deleting]
        dsimp only
        rw [Act.bind_apply, failed]
        rfl
      have amid₁ := amid_apply now faithful known isMarked deleting applied amid
      dsimp only
      rw [Act.bind_apply]
      generalize c.recorded.apply now s (w, log) = ended at amid₁ ⊢
      obtain ⟨answer, x₁⟩ := ended
      cases answer with
      | error e => exact amid₁
      | ok delay => exact amid₁

/-- **One look**: whatever fails meanwhile, all hooks are accounted for behind it. -/
theorem Accounted.look (shown : v.Shows w s)
    (saved : s.metadata.deleting = false →
      ∀ e, (c.reconcile now s w).1 ≠ .error (.apply (.cluster e)))
    (accounted : Accounted hooks (v.recorded w) (w, log)) :
    Accounted hooks (v.recorded (c.recorded.reconcile now s (w, .began s :: log)).2.1)
      (c.recorded.reconcile now s (w, .began s :: log)).2 := by
  have amid : Amid hooks s s.statusOrBlank.webhookId (w, .began s :: log) := by
    rw [shown.knows.webhookId]
    exact accounted.begin s
  have counted := amid.calm (calm_count faithful .reconciliation _)
  have known := shown.knows.moved (faithful.apart.others.counters .reconciliation w)
  have dispatched := amid_dispatch now faithful known saved counted
  have ended := dispatched.calm (calm_count faithful .reconciliationDuration _)
  rw [← recorded_count faithful .reconciliationDuration] at ended
  exact ended.toAccounted

end Looks

/-! ## A whole life -/

/-- All hooks are accounted for at every moment of a life. -/
theorem Life.accounted (faithful : c.Faithful v hooks) (life : Life c v hooks x) :
    Accounted hooks (v.recorded x.1) x := by
  induction life with
  | start => exact ⟨trivial, fun _ none => (nomatch none)⟩
  | look life now shown saved ih => exact ih.look now faithful shown saved
  | meanwhile life status gone ih =>
    refine ⟨ih.sound, fun id mem here => ?_⟩
    rw [Sight.recorded_of_status status]
    exact ih.known id mem (gone id mem here)

/-- **No hook outlives its source in silence.** Whenever the mark is asked to be taken off, each
hook that was created is gone, or somebody was told that it was left on GitLab; and all that was
asked of collaborators was allowed for the source of the look. -/
theorem Life.no_silent_hook (faithful : c.Faithful v hooks) (life : Life c v hooks x) :
    (∀ r w log, (Entry.sent r w :: log) <:+ x.2 →
      (∃ index, r.content = .operations (takeMark index)) →
        ∀ id ∈ created log, hooks w id = none ∨ Told log id) ∧
    ∀ call log, (Entry.asked call :: log) <:+ x.2 →
      ∃ s, looking? log = some s ∧ Allowed s call := by
  have sound := (life.accounted faithful).sound
  constructor
  · rintro r w log here ⟨index, takes⟩
    exact sound.due here index takes
  · intro call log here
    exact sound.due here

end HookRelay.Controller

/-! ## A source with one hook -/

namespace HookRelay.OneSource

open Controller

/-- The hooks in memory. -/
def shown (w : OneSource) : Hook.Held := w.memory.hooks.shown

/-- The controller in memory keeps to the laws, whatever GitLab is told to answer. -/
theorem faithful : controller.Faithful sight shown where
  keeps := {
    others := {
      sinks _ _ _ _ here := here
      lists _ _ _ here := here
      creates _ _ _ here := here
      secrets _ _ _ _ here := here
      notices _ _ _ _ here := here
      counters _ _ _ here := here }
    notices _ _ _ here := here
    provider := Hook.Store.provider_keeps lawful_hooksPart InMemory.project }
  removes := Hook.Store.provider_removes lawful_hooksPart InMemory.project
  apart := throughout
  thins r w id here := by
    obtain ⟨path, query, content⟩ := r
    cases content with
    | read | create _ | operations _ => exact here
    | merge patch =>
      simp only [controller, api] at here
      split at here <;> exact here
  saves written sent := (lawful.toSaves written sent).2
  marks r s puts w := by
    obtain ⟨path, query, content⟩ := r
    cases puts
    rfl
  registry _ _ := ⟨fun _ here => here, rfl⟩

/-- The world in which the source is created. -/
def beginning : OneSource := { before with refusing := false }

/-- What is there behind the first look. -/
def standing : OneSource × List (Entry OneSource) :=
  (controller.recorded.reconcile ⟨0⟩ source (beginning, [.began source])).2

/-- The world when somebody has deleted the source. -/
def withoutSource (w : OneSource) : OneSource :=
  { w with object := Json.merge w.object (.object [("metadata", .object
    [("deletionTimestamp", .string "2024-01-01T00:00:00Z")])]) }

theorem shown_withoutSource (w : OneSource) : shown (withoutSource w) = shown w := rfl

/-- What is there when somebody has deleted the source behind the first look. -/
def deleted : OneSource := withoutSource standing.1

/-- The source that is to go, as it is read then. -/
def leaving : Source := (Source.ofJson deleted.object).toOption.getD source

/-- What is there behind the second look. -/
def left : OneSource × List (Entry OneSource) :=
  (controller.recorded.reconcile ⟨60⟩ leaving (deleted, .began leaving :: standing.2)).2

theorem answered : (controller.reconcile ⟨0⟩ source beginning).1 = .ok (some 300) := by
  decide +kernel

theorem deleted_object : deleted.object.isObject = true ∧
    (deleted.object.get? "status").all Json.isObject = true ∧
    deleted.object.get? "status" = standing.1.object.get? "status" ∧
    (Source.ofJson deleted.object).toOption.isSome = true ∧
    leaving.spec = source.spec ∧
    leaving.metadata = { source.metadata with deleting := true } := by
  decide +kernel

theorem stored_deleted : Source.IsStored deleted.object := by
  obtain ⟨isObject, status, -⟩ := deleted_object
  refine ⟨isObject, fun st here => .inr ?_⟩
  rw [here] at status
  exact status

theorem read_deleted : Source.ofJson deleted.object = .ok leaving := by
  obtain ⟨-, -, -, isRead, -⟩ := deleted_object
  unfold leaving
  cases read : Source.ofJson deleted.object with
  | error e =>
    rw [read] at isRead
    cases isRead
  | ok s => rfl

theorem deleting_leaving : leaving.metadata.deleting = true := by
  rw [deleted_object.2.2.2.2.2]

/-- A source that is read with the specification and the name of the one there was. -/
theorem shows_of_read {w : OneSource} {s : Source} (stored : Source.IsStored w.object)
    (read : Source.ofJson w.object = .ok s) (spec : s.spec = source.spec)
    (inNamespace : s.metadata.namespaceOrEmpty = "team") (named : s.metadata.displayName = "repo") :
    sight.Shows w s where
  stored := stored
  read := read
  inNamespace := inNamespace
  named := named
  inScope scope inScope := by
    rw [spec] at inScope
    exact (Except.ok.inj inScope).symm

theorem shows_deleted : sight.Shows deleted leaving := by
  obtain ⟨-, -, -, -, spec, metadata⟩ := deleted_object
  refine shows_of_read stored_deleted read_deleted spec ?_ ?_
  · rw [metadata]
    rfl
  · rw [metadata]
    rfl

theorem status_of_object {w w' : OneSource}
    (same : w'.object.get? "status" = w.object.get? "status") :
    sight.status w' = sight.status w := same

theorem status_deleted : sight.status deleted = sight.status standing.1 :=
  status_of_object deleted_object.2.2.1

theorem life_standing : Life controller sight shown standing := by
  show Life controller sight shown
    (controller.recorded.reconcile ⟨0⟩ source (beginning, [.began source])).2
  have start : Life controller sight shown (beginning, []) := .start
  refine start.look ⟨0⟩ (shows_before rfl) fun _ e failed => ?_
  rw [answered] at failed
  cases failed

theorem life_deleted : Life controller sight shown (deleted, standing.2) := by
  have same : shown deleted = shown standing.1 := shown_withoutSource standing.1
  refine life_standing.meanwhile status_deleted fun id _ here => ?_
  rw [same] at here
  exact here

theorem life_left : Life controller sight shown left := by
  unfold left
  refine life_deleted.look ⟨60⟩ shows_deleted fun stays => ?_
  rw [deleting_leaving] at stays
  cases stays

deriving instance DecidableEq for Json.Patch.Step, Cluster.Request.Content

/-- Whether the `mark` is asked to be taken off. -/
def takesMark : Entry OneSource → Bool
  | .sent r _ => decide (r.content = .operations (takeMark 0))
  | .began _ | .asked _ => false

theorem sent_of_takesMark {log : List (Entry OneSource)} (takes : log.head?.any takesMark = true) :
    ∃ r w, log = .sent r w :: log.tail ∧ r.content = .operations (takeMark 0) := by
  cases log with
  | nil => cases takes
  | cons e log =>
    cases e with
    | sent r w => exact ⟨r, w, rfl, of_decide_eq_true takes⟩
    | began _ | asked _ => cases takes

/-- The second look asks for the mark to be taken off, when one hook was created. -/
theorem asks_to_leave : (left.2.drop 1).head?.any takesMark = true ∧
    created (left.2.drop 1).tail = [1] := by
  decide +kernel

/-- **A source with one hook comes and goes**: when its mark is asked to be taken off, the hook is
gone, or somebody was told of it. -/
theorem no_hook_left : ∃ r w log, (Entry.sent r w :: log) <:+ left.2 ∧
    r.content = .operations (takeMark 0) ∧ created log = [1] ∧
      ∀ id ∈ created log, shown w id = none ∨ Told log id := by
  obtain ⟨asks, made⟩ := asks_to_leave
  obtain ⟨r, w, entries, takes⟩ := sent_of_takesMark asks
  have here : (Entry.sent r w :: (left.2.drop 1).tail) <:+ left.2 := by
    rw [← entries]
    exact List.drop_suffix 1 left.2
  exact ⟨r, w, (left.2.drop 1).tail, here, takes, made,
    (life_left.no_silent_hook faithful).1 r w _ here ⟨0, takes⟩⟩

end HookRelay.OneSource

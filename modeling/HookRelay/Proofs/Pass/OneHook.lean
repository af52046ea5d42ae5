import HookRelay.Proofs.Pass.Calls
import HookRelay.Proofs.World.InMemory
import Mathlib.Algebra.Ring.Nat

/-!
# A source has one hook

Passes over a source follow one another, each from the status that the last one arrived at. Of
the hooks that they create, all but the recorded one are gone: a hook is created only where none
is recorded or the recorded one is missing, and every hook that is created is recorded, whatever
else the pass runs into.

## Main definitions

* `made`, `attempts`, `told` : what the calls of a pass say about new hooks
* `Collaborators.KeepsHooks` : no hook appears but those that GitLab says it created
* `Renews` : what one pass does to the recorded hook
* `Run` : passes over a source, one after the other

## Main statements

* `Pass.converge_renews` : what one pass does to the recorded hook
* `Run.one_hook` : at most one hook is left of those that were created, and it is recorded
-/

namespace HookRelay

variable {W : Type}

open Hook (Held thinning)

/-- **GitLab keeps the hooks of a scope.** No collaborator makes a hook appear there, but for the
hooks that GitLab says it created; all of them may answer anything, and anybody may delete and
edit hooks whenever a collaborator is asked. -/
structure Collaborators.KeepsHooks (team : Collaborators W) (σ : Scope) (hooks : W → Held) :
    Prop where
  others : team.Within (thinning hooks)
  notices : ∀ n, (team.notices.publish n).Within (thinning hooks)
  provider : team.hooks.Keeps σ hooks

namespace Pass

/-! ## New hooks in a list of calls -/

namespace Call

/-- The number of the hook that a call created: the `webhookId` to be recorded. -/
def made? : Call → Option Int
  | createHook _ (.ok hook) => some hook.id
  | _ => none

/-- Whether a call asks for a new hook, whatever is answered. -/
def isAttempt : Call → Bool
  | createHook _ _ => true
  | _ => false

/-- Whether a call tells people of a new hook, in a `WebhookCreated` notice. -/
def isTold : Call → Bool
  | publish n => n.reason = Notice.hookCreated
  | _ => false

end Call

/-- The numbers of the hooks that were created. -/
def made (log : List Call) : List Int := log.filterMap Call.made?

/-- How often a new hook was asked for. -/
def attempts (log : List Call) : Nat := log.countP Call.isAttempt

/-- How often people were told of a new hook. -/
def told (log : List Call) : Nat := log.countP Call.isTold

section Cons

variable (options : Hook.Options) (hook : Hook.Reported) (e : Hook.Error)
  (answer : Except Hook.Error Hook.Reported) (log : List Call)

@[simp] theorem made_created :
    made (.createHook options (.ok hook) :: log) = hook.id :: made log :=
  List.filterMap_cons_some rfl

@[simp] theorem made_refused : made (.createHook options (.error e) :: log) = made log :=
  List.filterMap_cons_none rfl

@[simp] theorem attempts_create :
    attempts (.createHook options answer :: log) = attempts log + 1 :=
  List.countP_cons_of_pos rfl

@[simp] theorem told_create : told (.createHook options answer :: log) = told log :=
  List.countP_cons_of_neg Bool.false_ne_true

end Cons

/-- Nothing happens that has to do with new hooks, and none appears. -/
structure Quiet (hooks : W → Held) (s s' : W × List Call) : Prop where
  hooks : (thinning hooks).rel s.1 s'.1
  made : made s'.2 = made s.2
  attempts : attempts s'.2 = attempts s.2
  told : told s'.2 = told s.2

/-- What happens to a recorded world without anything that has to do with new hooks. -/
def quiet (hooks : W → Held) : Drift (W × List Call) where
  rel := Quiet hooks
  refl s := ⟨(thinning hooks).refl s.1, rfl, rfl, rfl⟩
  trans first second :=
    ⟨(thinning hooks).trans first.hooks second.hooks, second.made.trans first.made,
      second.attempts.trans first.attempts, second.told.trans first.told⟩

/-- Whether a call has nothing to do with new hooks. -/
def Call.isQuiet (c : Call) : Bool := c.made? = none && !c.isAttempt && !c.isTold

theorem Call.quiet {hooks : W → Held} {c : Call} (still : c.isQuiet = true) {s : W × List Call}
    {w₁ : W} (moved : (thinning hooks).rel s.1 w₁) : Quiet hooks s (w₁, c :: s.2) := by
  simp only [isQuiet, Bool.and_eq_true, decide_eq_true_eq, Bool.not_eq_true'] at still
  obtain ⟨⟨none, notAttempt⟩, notTold⟩ := still
  refine ⟨moved, ?_, ?_, ?_⟩
  · exact List.filterMap_cons_none none
  · exact List.countP_cons_of_neg (by simp [notAttempt])
  · exact List.countP_cons_of_neg (by simp [notTold])

/-! ## Synchronising a hook -/

variable {hooks : W → Held} {count : Counter → Act W Unit} {client : Hook.Client W}
  {options : Hook.Options} {s : W × List Call}

/-- What synchronising a hook does, by its answer. -/
inductive Renewed (hooks : W → Held) (recorded : Option Int) (s : W × List Call) :
    Except Hook.Error Hook.Outcome → W × List Call → Prop where
  /-- The recorded hook is there. -/
  | updated {id : Int} {s' : W × List Call} (known : recorded = some id)
      (quiet : Quiet hooks s s') : Renewed hooks recorded s (.ok (.updated id)) s'
  /-- A hook is created, and the recorded one is gone. -/
  | created {outcome : Hook.Outcome} {s' : W × List Call} (new : outcome.isNew = true)
      (made : made s'.2 = outcome.id :: made s.2) (attempts : attempts s'.2 = attempts s.2 + 1)
      (told : told s'.2 = told s.2)
      (left : ∀ id, (hooks s'.1 id).isSome →
        id = outcome.id ∨ (hooks s.1 id).isSome ∧ recorded ≠ some id) :
      Renewed hooks recorded s (.ok outcome) s'
  /-- No hook is created. -/
  | failed {e : Hook.Error} {s' : W × List Call} (left : (thinning hooks).rel s.1 s'.1)
      (made : made s'.2 = made s.2) (attempts : attempts s'.2 ≤ attempts s.2 + 1)
      (told : told s'.2 = told s.2) : Renewed hooks recorded s (.error e) s'

theorem Quiet.failed {recorded : Option Int} {e : Hook.Error} {s' : W × List Call}
    (quiet : Quiet hooks s s') : Renewed hooks recorded s (.error e) s' :=
  .failed quiet.hooks quiet.made (Nat.le_succ_of_le (Nat.le_of_eq quiet.attempts)) quiet.told

theorem Renewed.after {recorded : Option Int} {s₁ s' : W × List Call}
    {answer : Except Hook.Error Hook.Outcome} (h : Renewed hooks recorded s₁ answer s')
    (quiet : Quiet hooks s s₁) : Renewed hooks recorded s answer s' := by
  cases h with
  | updated known still => exact .updated known ((Pass.quiet hooks).trans quiet still)
  | created new made attempts told left =>
    rw [quiet.made] at made
    rw [quiet.attempts] at attempts
    rw [quiet.told] at told
    exact .created new made attempts told fun id here =>
      (left id here).imp_right fun before => ⟨quiet.hooks id before.1, before.2⟩
  | failed left made attempts told =>
    rw [quiet.made] at made
    rw [quiet.attempts] at attempts
    rw [quiet.told] at told
    exact .failed ((thinning hooks).trans quiet.hooks left) made attempts told

section Sync

variable (counters : ∀ c, (count c).Within (thinning hooks)) (keeps : client.Keeps hooks)
include counters

/-- Behind an operation that is recorded, counting it has nothing to do with new hooks. -/
theorem counted_quiet {α : Type} {operation : String} {a : Act W (Except Hook.Error α)}
    {call : Except Hook.Error α → Call} {answer : Except Hook.Error α} {s' : W × List Call}
    (run : Hook.counted (Hook.countRecorded count) operation (a.recorded call) s = (answer, s')) :
    ∃ w₁, a s.1 = (answer, w₁) ∧ Quiet hooks (w₁, call answer :: s.2) s' := by
  rw [Hook.counted_apply] at run
  obtain ⟨rfl, rfl⟩ := Prod.mk.inj run
  exact ⟨_, rfl, Call.quiet rfl (counters _ _)⟩

include keeps

theorem overwrite_renewed (id : Int) {recorded : Option Int} (known : recorded = some id)
    {answer : Except Hook.Error Hook.Outcome} {s' : W × List Call}
    (run : Hook.overwrite (Hook.countRecorded count) client.recorded options id s =
      (answer, s')) : Renewed hooks recorded s answer s' := by
  rw [Hook.overwrite, Act.bind_apply] at run
  rcases counted : Hook.counted (Hook.countRecorded count) "edit"
    (client.recorded.edit id options) s with ⟨edit, s₁⟩
  obtain ⟨w₁, edited, counting⟩ := counted_quiet counters counted
  have asked : Quiet hooks s (w₁, .editHook id options edit :: s.2) :=
    Call.quiet rfl ((keeps.edit id options).moved edited)
  have quiet := (quiet hooks).trans asked counting
  rw [counted] at run
  cases edit with
  | ok hook =>
    cases run
    exact .updated known quiet
  | error e =>
    cases run
    exact quiet.failed

theorem createNew_renewed {outcome : Int → Hook.Outcome} {recorded : Option Int}
    (new : ∀ id, (outcome id).isNew = true) (numbered : ∀ id, (outcome id).id = id)
    (gone : ∀ id, recorded = some id → hooks s.1 id = none)
    {answer : Except Hook.Error Hook.Outcome} {s' : W × List Call}
    (run : Hook.createNew (Hook.countRecorded count) client.recorded options outcome s =
      (answer, s')) : Renewed hooks recorded s answer s' := by
  rw [Hook.createNew, Act.bind_apply] at run
  rcases counted : Hook.counted (Hook.countRecorded count) "create"
    (client.recorded.create options) s with ⟨create, s₁⟩
  obtain ⟨w₁, created, quiet⟩ := counted_quiet counters counted
  rw [counted] at run
  cases create with
  | ok hook =>
    cases run
    refine .created (new _) ?_ ?_ ?_ fun id here => ?_
    · rw [numbered, quiet.made, made_created]
    · rw [quiet.attempts, attempts_create]
    · rw [quiet.told, told_create]
    · -- what is there beside the new hook was there before, and the recorded one was not
      rw [numbered]
      refine (keeps.created created id (quiet.hooks id here)).imp_right fun before => ?_
      refine ⟨before, fun known => ?_⟩
      rw [gone id known] at before
      cases before
  | error e =>
    cases run
    refine .failed ((thinning hooks).trans (keeps.refused created) quiet.hooks) ?_ ?_ ?_
    · rw [quiet.made, made_refused]
    · exact Nat.le_of_eq (quiet.attempts.trans (attempts_create _ _ _))
    · rw [quiet.told, told_create]

/-- **A hook is created only in place of one that is missing.** -/
theorem sync_renewed {recorded : Option Int} {answer : Except Hook.Error Hook.Outcome}
    {s' : W × List Call}
    (run : Hook.sync (Hook.countRecorded count) client.recorded options recorded s =
      (answer, s')) : Renewed hooks recorded s answer s' := by
  cases recorded with
  | none =>
    refine createNew_renewed counters keeps (fun _ => rfl) (fun _ => rfl) ?_ run
    intro id known
    cases known
  | some id =>
    rw [Hook.sync, Act.bind_apply] at run
    rcases counted : Hook.counted (Hook.countRecorded count) "get" (client.recorded.get id) s with
      ⟨look, s₁⟩
    obtain ⟨w₁, looked, counting⟩ := counted_quiet counters counted
    have asked : Quiet hooks s (w₁, .getHook id look :: s.2) :=
      Call.quiet rfl ((keeps.get id).moved looked)
    have quiet := (quiet hooks).trans asked counting
    rw [counted] at run
    cases look with
    | ok hook => exact (overwrite_renewed counters keeps id rfl run).after quiet
    | error e =>
      cases missing : e.isNotFound with
      | false =>
        simp only [missing, Bool.false_eq_true, if_false] at run
        cases run
        exact quiet.failed
      | true =>
        simp only [missing, if_true] at run
        refine (createNew_renewed counters keeps (fun _ => rfl) (fun _ => rfl) ?_ run).after quiet
        intro other known
        cases known
        -- the hook was missing when it was looked for, and counting adds none
        have gone : hooks w₁ id = none := keeps.missing looked missing
        cases here : hooks s₁.1 id with
        | none => rfl
        | some o =>
          have before := counting.hooks id (by rw [here]; rfl)
          rw [gone] at before
          cases before

end Sync

/-! ## One pass -/

section Pass

variable {team : Collaborators W} {σ : Scope} {p : Pass W}

/-- Where GitLab keeps the hooks, nothing but GitLab has to do with new ones. -/
theorem recorded_within (keeps : team.KeepsHooks σ hooks) :
    team.recorded.Within (quiet hooks) where
  sinks _ _ _ := Call.quiet rfl (keeps.others.sinks _ _ _)
  lists _ _ := Call.quiet rfl (keeps.others.lists _ _)
  creates _ _ := Call.quiet rfl (keeps.others.creates _ _)
  secrets _ _ _ := Call.quiet rfl (keeps.others.secrets _ _ _)
  notices n other s := by
    have still : (Call.publish n).isQuiet = true := by
      simp [Call.isQuiet, Call.made?, Call.isAttempt, Call.isTold, other]
    exact Call.quiet still (keeps.notices n s.1)
  counters _ _ := Call.quiet rfl (keeps.others.counters _ _)

theorem syncHook_renewed (keeps : p.team.KeepsHooks σ hooks) {access : String}
    {recorded : Option Int} {answer : Except Hook.Error Hook.Outcome} {s' : W × List Call}
    (run : p.recorded.syncHook σ access options recorded s = (answer, s')) :
    Renewed hooks recorded s answer s' := by
  rw [syncHook, Act.bind_apply] at run
  rcases opened : p.team.hooks.client σ access s.1 with ⟨client, w₁⟩
  have recorded_client : p.recorded.team.hooks.client σ access s =
      (client.map Hook.Client.recorded, w₁, .openClient σ access (errorOf? client) :: s.2) := by
    show (Except.map _ (p.team.hooks.client σ access s.1).1,
      (p.team.hooks.client σ access s.1).2, _ :: s.2) = _
    rw [opened]
  have quiet : Quiet hooks s (w₁, .openClient σ access (errorOf? client) :: s.2) :=
    Call.quiet rfl ((keeps.provider.opens access).moved opened)
  rw [recorded_client] at run
  cases client with
  | error e =>
    cases run
    exact quiet.failed
  | ok client =>
    exact (sync_renewed keeps.others.counters (keeps.provider.clients opened) run).after quiet

/-- What a pass does to the recorded hook: it stays recorded, or another takes its place. -/
inductive Renews (hooks : W → Held) (recorded : Option Int) (s : W × List Call) :
    Option Int → W × List Call → Prop where
  | kept {s' : W × List Call} (left : (thinning hooks).rel s.1 s'.1) (made : made s'.2 = made s.2)
      (attempts : attempts s'.2 ≤ attempts s.2 + 1) (told : told s'.2 = told s.2) :
      Renews hooks recorded s recorded s'
  | replaced {id : Int} {s' : W × List Call}
      (left : ∀ other, (hooks s'.1 other).isSome →
        other = id ∨ (hooks s.1 other).isSome ∧ recorded ≠ some other)
      (made : made s'.2 = id :: made s.2) (attempts : attempts s'.2 = attempts s.2 + 1)
      (told : told s'.2 = told s.2 + 1) : Renews hooks recorded s (some id) s'

theorem proclaim_quiet {scope : Scope} {outcome : Hook.Outcome} (known : outcome.isNew = false) :
    (p.recorded.proclaim scope outcome s).2 = s := by
  simp [proclaim, known]

theorem proclaim_told {scope : Scope} {outcome : Hook.Outcome} (keeps : p.team.KeepsHooks σ hooks)
    (new : outcome.isNew = true) :
    (thinning hooks).rel s.1 (p.recorded.proclaim scope outcome s).2.1 ∧
    made (p.recorded.proclaim scope outcome s).2.2 = made s.2 ∧
    attempts (p.recorded.proclaim scope outcome s).2.2 = attempts s.2 ∧
    told (p.recorded.proclaim scope outcome s).2.2 = told s.2 + 1 := by
  have word : "WebhookCreated" = Notice.hookCreated := rfl
  rw [proclaim, if_pos new]
  refine ⟨keeps.notices _ _, ?_, ?_, ?_⟩
  · exact List.filterMap_cons_none rfl
  · exact List.countP_cons_of_neg Bool.false_ne_true
  · exact List.countP_cons_of_pos (decide_eq_true word)

theorem OnHook.renews (keeps : p.team.KeepsHooks σ hooks)
    (same : ∀ scope, p.source.spec.scope = .ok scope → scope = σ) {st : Source.Status}
    {o : Outcome} {s' : W × List Call} (h : p.recorded.OnHook (quiet hooks) st s o s') :
    Renews hooks st.webhookId s o.status.webhookId s' := by
  cases h with
  | untouched moved kept =>
    rw [kept]
    exact .kept moved.hooks moved.made (Nat.le_succ_of_le (Nat.le_of_eq moved.attempts)) moved.told
  | synced moved inScope synced recorded =>
    cases same _ inScope
    rw [recorded]
    cases (syncHook_renewed keeps synced).after moved with
    | updated known quiet =>
      rw [proclaim_quiet rfl, known]
      have atMost := Nat.le_succ_of_le (Nat.le_of_eq quiet.attempts)
      exact .kept quiet.hooks quiet.made atMost quiet.told
    | created new made attempts told left =>
      obtain ⟨thinner, made', attempts', told'⟩ := proclaim_told keeps new
      refine .replaced (fun id here => left id (thinner id here)) ?_ ?_ ?_
      · rw [made', made]
      · rw [attempts', attempts]
      · rw [told', told]
  | failed moved inScope failed left kept =>
    cases same _ inScope
    rw [kept]
    cases (syncHook_renewed keeps failed).after moved with
    | failed thinner made attempts told =>
      refine .kept ((thinning hooks).trans thinner left.hooks) ?_ ?_ ?_
      · rw [left.made, made]
      · rw [left.attempts]
        exact attempts
      · rw [left.told, told]

/-- **What a pass does to the recorded hook.** Where it is replaced, it is gone. -/
theorem converge_renews (keeps : p.team.KeepsHooks σ hooks)
    (same : ∀ scope, p.source.spec.scope = .ok scope → scope = σ) (w : W) :
    Renews hooks p.source.statusOrBlank.webhookId (w, []) (p.converge w).1.status.webhookId
      ((p.converge w).2, p.calls w) := by
  have renews := (converge_onHook (recorded_within keeps) (w, [])).renews keeps same
  obtain ⟨outcome, world⟩ := p.converge_recorded (w, [])
  rw [outcome] at renews
  have recorded_world : (p.recorded.converge (w, [])).2 = ((p.converge w).2, p.calls w) :=
    Prod.ext world rfl
  rwa [recorded_world] at renews

/-! ## Passes, one after the other -/

/-- **Passes over one source**, the latest first: what they asked, the world that they left, and the
status that they arrived at. The first one starts without a recorded hook (`webhookId`), every other
one from the status of the one before, and all of them work on the hooks of one scope; anything else
in the source, the settings and the clock may change, and hooks may go in between. -/
inductive Run (team : Collaborators W) (σ : Scope) (hooks : W → Held) :
    List (List Call) → W → Source.Status → Prop where
  | start {w : W} {st : Source.Status} (unrecorded : st.webhookId = none) :
      Run team σ hooks [] w st
  | pass {history : List (List Call)} {w w₁ : W} {st : Source.Status}
      (run : Run team σ hooks history w st) (meanwhile : (thinning hooks).rel w w₁) (p : Pass W)
      (ours : p.team = team) (same : ∀ scope, p.source.spec.scope = .ok scope → scope = σ)
      (continued : p.source.statusOrBlank = st) :
      Run team σ hooks (p.calls w₁ :: history) (p.converge w₁).2 (p.converge w₁).1.status

/-- What the passes of a `Run` keep. -/
structure OneHook (hooks : W → Held) (history : List (List Call)) (w : W) (st : Source.Status) :
    Prop where
  /-- Of the hooks that were created, only the recorded one can be there. -/
  recorded : ∀ id ∈ history.flatMap made, (hooks w id).isSome → st.webhookId = some id
  /-- No pass asks for a new hook twice. -/
  once : ∀ log ∈ history, attempts log ≤ 1
  /-- People were told of every new hook. -/
  proclaimed : (history.map told).sum = (history.flatMap made).length

theorem OneHook.step {history : List (List Call)} {w w' : W} {st st' : Source.Status}
    {log : List Call} (before : OneHook hooks history w st)
    (renews : Renews hooks st.webhookId (w, []) st'.webhookId (w', log)) :
    OneHook hooks (log :: history) w' st' := by
  generalize next : st'.webhookId = recorded at renews
  cases renews with
  | kept left none atMost untold =>
    have none : made log = [] := none
    have untold : told log = 0 := untold
    refine ⟨fun id created here => ?_, fun l mem => ?_, ?_⟩
    · rw [List.flatMap_cons, none, List.nil_append] at created
      rw [next]
      exact before.recorded id created (left id here)
    · obtain rfl | mem := List.mem_cons.1 mem
      · exact atMost
      · exact before.once l mem
    · rw [List.map_cons, List.sum_cons, untold, Nat.zero_add, before.proclaimed,
        List.flatMap_cons, none, List.nil_append]
  | @replaced new _ left one once proclaimed =>
    have one : made log = [new] := one
    have proclaimed : told log = 1 := proclaimed
    refine ⟨fun id created here => ?_, fun l mem => ?_, ?_⟩
    · rw [next]
      obtain rfl | ⟨stayed, other⟩ := left id here
      · rfl
      · rw [List.flatMap_cons, one, List.singleton_append] at created
        obtain rfl | created := List.mem_cons.1 created
        · rfl
        -- an older hook would be the recorded one, which was missing
        · exact absurd (before.recorded id created stayed) other
    · obtain rfl | mem := List.mem_cons.1 mem
      · exact Nat.le_of_eq once
      · exact before.once l mem
    · rw [List.map_cons, List.sum_cons, proclaimed, before.proclaimed, List.flatMap_cons, one,
        List.singleton_append, List.length_cons, Nat.add_comm]

/-- **A source has one hook.** After every pass, each hook that the passes created and that is
still there is the recorded one; no pass asks for more than one new hook; and people were told
of exactly the hooks that were created. -/
theorem Run.one_hook (keeps : team.KeepsHooks σ hooks) {history : List (List Call)} {w : W}
    {st : Source.Status} (run : Run team σ hooks history w st) :
    (∀ id ∈ history.flatMap made, (hooks w id).isSome → st.webhookId = some id) ∧
      (∀ log ∈ history, attempts log ≤ 1) ∧
      (history.map told).sum = (history.flatMap made).length := by
  have one : OneHook hooks history w st := by
    induction run with
    | start unrecorded => exact ⟨fun _ none => (nomatch none), fun _ none => (nomatch none), rfl⟩
    | @pass history w w₁ st run meanwhile p ours same continued ih =>
      subst ours continued
      -- between two passes hooks can only go
      have left : OneHook hooks history w₁ p.source.statusOrBlank :=
        ⟨fun id created here => ih.recorded id created (meanwhile id here), ih.once, ih.proclaimed⟩
      exact left.step (p.converge_renews keeps same w₁)
  exact ⟨one.recorded, one.once, one.proclaimed⟩

end Pass

/-! ## In memory -/

open InMemory (project shown)

/-- GitLab keeps the hooks of every scope in memory. -/
theorem keepsHooks_inMemory (σ : Scope) : InMemory.collaborators.KeepsHooks σ shown where
  others := InMemory.within_hooks.mono fun {w w'} same id here => by
    have same : w'.hooks = w.hooks := same
    rwa [shown, same] at here
  notices _ _ _ here := here
  provider := Hook.Store.provider_keeps InMemory.lawful_hooksPart σ

/-- The world behind a first pass, once somebody has deleted its hook. -/
def hookDeleted : InMemory :=
  let w := ((InMemory.passOver InMemory.source).converge InMemory.ready).2
  { w with hooks := { w.hooks with hooks := [] } }

/-- The source behind a first pass, with another setting. -/
def sourceEdited : Source :=
  { InMemory.source with
    spec := { InMemory.source.spec with sslVerify := false }
    status := some ((InMemory.passOver InMemory.source).converge InMemory.ready).1.status }

/-- A hook that was deleted between two passes is replaced, and the new one is recorded. -/
theorem one_hook_after_deletion :
    ∃ history w st, Run InMemory.collaborators project shown history w st ∧
      history.flatMap made = [2, 1] ∧
      (∀ id ∈ history.flatMap made, (shown w id).isSome → st.webhookId = some id) ∧
      (∀ log ∈ history, attempts log ≤ 1) ∧
      (history.map told).sum = (history.flatMap made).length := by
  have start : Run InMemory.collaborators project shown [] InMemory.ready .blank := .start rfl
  have first := start.pass ((thinning shown).refl _) (InMemory.passOver InMemory.source) rfl
    (fun scope h => (Except.ok.inj h).symm) rfl
  have gone : (thinning shown).rel ((InMemory.passOver InMemory.source).converge InMemory.ready).2
      hookDeleted := by
    intro id here
    have none : shown hookDeleted id = none := Hook.Store.shown_none rfl
    rw [none] at here
    cases here
  have second := first.pass gone (InMemory.passOver sourceEdited) rfl
    (fun scope h => (Except.ok.inj h).symm) rfl
  exact ⟨_, _, _, second, by decide +kernel, second.one_hook (keepsHooks_inMemory _)⟩

end Pass

end HookRelay

import HookRelay.Proofs.Hook.Exact
import HookRelay.Proofs.Pass.Again
import HookRelay.Proofs.Pass.Parting

/-!
# Taking a source down does neither more nor less

Let GitLab be exact: hooks come and go as it says, and a deletion that fails changed nothing. Then
taking a source down deletes the recorded hook and nothing else, or leaves all hooks where they are
and either tells somebody or fails. It asks GitLab for nothing but that one deletion, it can be
done again without anything happening, and it undoes a pass that created a hook.

## Main definitions

* `Pass.asked`, `Pass.published` : the calls about hooks, and the notices, in a list of calls
* `Collaborators.Exact` : only GitLab touches hooks, and GitLab is exact
* `Source.Status.Cleared` : the status of a source that has parted from its hook
* `Pass.Dismissed` : what taking a source down comes to

## Main statements

* `Pass.finalize_dismissed` : it comes to one of three things
* `Pass.converge_creates` : what a pass that creates a hook leaves behind
* `Pass.finalize_exact` : taking down is exact, can be repeated, and undoes a pass
-/

namespace HookRelay

variable {W : Type}

open Hook (Held)

/-! ## What stands in a list of calls -/

namespace Pass

namespace Call

/-- Whether a call reads or writes a hook. -/
def isOnHook : Call → Bool
  | getHook .. | createHook .. | editHook .. | deleteHook .. => true
  | _ => false

/-- The notice that a call publishes. -/
def notice? : Call → Option Notice
  | publish n => some n
  | _ => none

end Call

/-- The calls that read or write hooks. -/
def asked (log : List Call) : List Call := log.filter Call.isOnHook

/-- The notices that were published. -/
def published (log : List Call) : List Notice := log.filterMap Call.notice?

end Pass

open Pass (Call asked published)

/-! ## Collaborators that leave hooks alone -/

/-- **Only GitLab touches hooks, and GitLab is exact.** Whatever the secrets, the cluster and the
sinks answer, the hooks stay as they are. -/
structure Collaborators.Exact (team : Collaborators W) (s : Source) (hooks : W → Option Held) :
    Prop where
  others : team.Within (Drift.fixing hooks)
  notices : ∀ n, (team.notices.publish n).Within (Drift.fixing hooks)
  provider : ∀ {σ}, s.spec.scope = .ok σ → team.hooks.Exact σ hooks

/-- The hooks stay as they are, and so does what is read off the record. -/
def Drift.aside {U : Type} (hooks : W → Option Held) (view : List Call → U) :
    Drift (W × List Call) :=
  .fixing fun s => (hooks s.1, view s.2)

section Aside

variable {U : Type} {hooks : W → Option Held} {view : List Call → U}

theorem Drift.hooks_of_aside {s s' : W × List Call} (moved : (aside hooks view).rel s s') :
    hooks s'.1 = hooks s.1 :=
  congrArg Prod.fst moved

theorem Drift.view_of_aside {s s' : W × List Call} (moved : (aside hooks view).rel s s') :
    view s'.2 = view s.2 :=
  congrArg Prod.snd moved

theorem Act.Within.aside {α : Type} {a : Act W α} (still : a.Within (Drift.fixing hooks))
    {call : α → Call} (skipped : ∀ answer log, view (call answer :: log) = view log) :
    (a.recorded call).Within (Drift.aside hooks view) := by
  intro s
  exact Prod.ext (still s.1) (skipped _ _)

end Aside

/-- The status of a source that has parted from its hook: its `webhookId` is gone and
`WebhookConfigured` says so, and all that is said of the sink and of the events stays. -/
structure Source.Status.Cleared (before : Status) (message : String) (st : Status) : Prop where
  forgotten : st.webhookId = none
  judged : st.Shows Source.webhookConfigured
    ⟨Condition.fails, some "WebhookDeleted", some message⟩
  unready : st.isReady = false
  sinkUri : st.sinkUri = before.sinkUri
  attributes : st.attributes = before.attributes
  observedGeneration : st.observedGeneration = before.observedGeneration

namespace Pass

variable {p : Pass W} {hooks : W → Option Held} {held : Held} {s s' : W × List Call}

/-! ## Deleting the hook -/

/-- What is told apart of a record when a source is taken down. -/
def parted (log : List Call) : List Call × List Notice := (asked log, published log)

/-- The hooks behind a removal that ends with an answer. -/
def removal (held : Held) (id : Int) : Except Hook.Error Bool → Held
  | .ok _ => Function.update held id none
  | .error _ => held

/-- The hooks behind a deletion that ends with an answer. -/
def remaining (held : Held) (id : Int) : Except Error Fate → Held
  | .ok .deleted => Function.update held id none
  | .ok (.abandoned _) | .error _ => held

/-- What deleting a hook comes to: GitLab is asked for the deletion of this hook, or not at all,
and nothing is published. -/
structure Tried (hooks : W → Option Held) (held : Held) (id : Int) (s s' : W × List Call)
    (answer : Except Error Fate) : Prop where
  asked : asked s'.2 = asked s.2 ∨ ∃ r, asked s'.2 = .deleteHook id r :: asked s.2
  published : published s'.2 = published s.2
  hooks : hooks s'.1 = some (remaining held id answer)

theorem Tried.of_aside {id : Int} {answer : Except Error Fate} (start : hooks s.1 = some held)
    (moved : (Drift.aside hooks parted).rel s s') (kept : remaining held id answer = held) :
    Tried hooks held id s s' answer where
  asked := .inl (congrArg Prod.fst (Drift.view_of_aside moved))
  published := congrArg Prod.snd (Drift.view_of_aside moved)
  hooks := by rw [Drift.hooks_of_aside moved, start, kept]

theorem remove_recorded {client : Hook.Client W} {count : Counter → Act W Unit}
    (counters : ∀ n, (count n).Within (Drift.fixing hooks)) (exact : client.Exact hooks) {id : Int}
    {answer : Except Hook.Error Bool} (start : hooks s.1 = some held)
    (run : Hook.remove (Hook.countRecorded count) client.recorded id s = (answer, s')) :
    (∃ r, asked s'.2 = .deleteHook id r :: asked s.2) ∧ published s'.2 = published s.2 ∧
      hooks s'.1 = some (removal held id answer) := by
  rw [Hook.remove, Act.bind_apply, Hook.counted_apply] at run
  rcases tried : client.delete id s.1 with ⟨r, w₁⟩
  have recorded : client.recorded.delete id s = (r, w₁, .deleteHook id r :: s.2) := by
    show (_, _, _ :: s.2) = _
    rw [tried]
  rw [recorded] at run
  have counted : ∀ n, hooks (count n w₁).2 = hooks w₁ := fun n => counters n w₁
  cases r with
  | ok u =>
    cases run
    exact ⟨⟨.ok u, rfl⟩, rfl, (counted _).trans (exact.deleted start tried)⟩
  | error e =>
    have left : hooks w₁ = some held := (exact.undeleted tried).trans start
    cases missing : e.isNotFound with
    | true =>
      simp only [missing, if_true] at run
      cases run
      -- a hook that is missing is gone without a deletion
      have gone : Function.update held id none = held :=
        Function.update_eq_self_iff.2 (exact.missing start tried missing).symm
      refine ⟨⟨.error e, rfl⟩, rfl, ?_⟩
      rw [removal, gone]
      exact (counted _).trans left
    | false =>
      simp only [missing, Bool.false_eq_true, if_false] at run
      cases run
      exact ⟨⟨.error e, rfl⟩, rfl, (counted _).trans left⟩

section Finalize

variable (exact : p.team.Exact p.source hooks)
include exact

theorem resolve_aside {ref : SecretKey} {answer : Except Credential.Failure String}
    {cache : Credential.Cache}
    (resolved : Credential.resolve p.recorded.team.secrets p.namespace_ ref [] s =
      ((answer, cache), s')) : (Drift.aside hooks parted).rel s s' := by
  have reads (name : String) :
      (p.recorded.team.secrets.get p.namespace_ name).Within (Drift.aside hooks parted) :=
    (exact.others.secrets p.namespace_ name).aside fun _ _ => rfl
  exact (Credential.within_resolve reads ref []).moved resolved

theorem client_aside {scope : Scope} (inScope : p.source.spec.scope = .ok scope) (token : String) :
    (p.recorded.team.hooks.client scope token).Within (Drift.aside hooks parted) := by
  have opened : ((p.team.hooks.client scope token).recorded fun r =>
      .openClient scope token (errorOf? r)).Within (Drift.aside hooks parted) :=
    ((exact.provider inScope).opens token).aside fun _ _ => rfl
  exact opened.map _

theorem clientReached_aside {client : Hook.Client (W × List Call)}
    (opened : p.recorded.ClientReached s client s') :
    (Drift.aside hooks parted).rel s s' ∧
      ∃ c : Hook.Client W, client = c.recorded ∧ c.Exact hooks := by
  obtain ⟨scope, token, s₁, ⟨cache, inScope, resolved⟩, opened⟩ := opened
  have inScope : p.source.spec.scope = .ok scope := inScope
  have read := resolve_aside exact resolved
  have moved := (client_aside exact inScope token).moved opened
  obtain ⟨c, handed, rfl⟩ := p.team.exists_client opened
  exact ⟨(Drift.aside hooks parted).trans read moved, c, rfl,
    (exact.provider inScope).clients handed⟩

theorem Deletes.tried {id : Int} {answer : Except Error Fate} (start : hooks s.1 = some held)
    (deletes : p.recorded.Deletes id s answer s') : Tried hooks held id s s' answer := by
  have through {client : Hook.Client (W × List Call)} {s₂ : W × List Call}
      {there : Except Hook.Error Bool} (opened : p.recorded.ClientReached s client s₂)
      (removed : Hook.remove p.recorded.team.count client id s₂ = (there, s'))
      (ends : remaining held id answer = removal held id there) :
      Tried hooks held id s s' answer := by
    obtain ⟨moved, c, rfl, clientExact⟩ := clientReached_aside exact opened
    have reached : hooks s₂.1 = some held := (Drift.hooks_of_aside moved).trans start
    have before : parted s₂.2 = parted s.2 := Drift.view_of_aside moved
    obtain ⟨sameCalls, sameNotices⟩ := Prod.mk.inj before
    obtain ⟨⟨r, calls⟩, notices, left⟩ :=
      remove_recorded exact.others.counters clientExact reached removed
    exact ⟨.inr ⟨r, calls.trans (by rw [sameCalls])⟩, notices.trans sameNotices, ends ▸ left⟩
  cases deletes with
  | unscoped inScope => exact .of_aside start ((Drift.aside hooks parted).refl s) rfl
  | tokenMissing inScope unavailable missing =>
    exact .of_aside start (resolve_aside exact unavailable) rfl
  | tokenUnread inScope unavailable present =>
    exact .of_aside start (resolve_aside exact unavailable) rfl
  | clientInvalid read refused =>
    obtain ⟨cache, inScope, resolved⟩ := read
    have read := resolve_aside exact resolved
    have moved := (client_aside exact inScope _).moved refused
    exact .of_aside start ((Drift.aside hooks parted).trans read moved) rfl
  | clientRefused read refused other =>
    obtain ⟨cache, inScope, resolved⟩ := read
    have read := resolve_aside exact resolved
    have moved := (client_aside exact inScope _).moved refused
    exact .of_aside start ((Drift.aside hooks parted).trans read moved) rfl
  | gone opened removed => exact through opened removed rfl
  | denied opened failed denied => exact through opened failed rfl
  | undeleted opened failed undenied => exact through opened failed rfl

end Finalize

/-! ## What taking a source down comes to -/

theorem cleared_withoutHook (p : Pass W) (message : String) (st : Source.Status) :
    st.Cleared message (p.withoutHook message st) where
  forgotten := rfl
  judged := by
    have mem : Source.webhookConfigured ∈ Source.judged := by decide
    show (p.judges Source.webhookConfigured ⟨Condition.fails, some "WebhookDeleted", some message⟩
      (p.complete { st with webhookId := none })).Shows _ _
    exact shows_judges_self mem
  unready := Bool.eq_false_iff.2 (not_isReady_fails (by decide))
  sinkUri := rfl
  attributes := rfl
  observedGeneration := rfl

/-- **What taking down a source with a hook comes to**: `Pass.finalize` deletes the hook, abandons
it, or fails. -/
inductive Dismissed (s : Source) (hooks : W → Option Held) (held : Held) (id : Int) (w' : W)
    (log : List Call) : Except Error Source.Status → Prop where
  /-- The hook is gone, and nobody is told. -/
  | deleted {st : Source.Status}
      (cleared : s.statusOrBlank.Cleared s!"webhook {id} deleted" st) (untold : published log = [])
      (gone : hooks w' = some (Function.update held id none)) :
      Dismissed s hooks held id w' log (.ok st)
  /-- The hook is left where it is, and somebody is told. -/
  | abandoned {st : Source.Status} {why : String}
      (cleared : s.statusOrBlank.Cleared s!"webhook {id} abandoned: {why}" st)
      (told : published log = [s.abandonment id why]) (left : hooks w' = some held) :
      Dismissed s hooks held id w' log (.ok st)
  /-- The source stays, and so does the hook. -/
  | kept {e : Error} (untold : published log = []) (left : hooks w' = some held) :
      Dismissed s hooks held id w' log (.error e)

theorem Departs.dismissed (exact : p.team.Exact p.source hooks) {id : Int}
    (recorded : p.source.statusOrBlank.webhookId = some id)
    {answer : Except Error Source.Status} {w : W} (start : hooks w = some held)
    (departs : p.recorded.Departs (w, []) answer s') :
    (asked s'.2 = [] ∨ ∃ r, asked s'.2 = [.deleteHook id r]) ∧
      Dismissed p.source hooks held id s'.1 s'.2 answer := by
  cases departs with
  | unrecorded unrecorded =>
    have unrecorded : p.source.statusOrBlank.webhookId = none := unrecorded
    rw [recorded] at unrecorded
    cases unrecorded
  | @kept own e s₁ owned deletes =>
    obtain rfl : own = id := Option.some.inj (owned.symm.trans recorded)
    have tried := deletes.tried exact start
    exact ⟨tried.asked, .kept tried.published tried.hooks⟩
  | @parted own fate s₁ owned deletes =>
    obtain rfl : own = id := Option.some.inj (owned.symm.trans recorded)
    have tried := deletes.tried exact start
    cases fate with
    | deleted =>
      have cleared := cleared_withoutHook p s!"webhook {own} deleted" p.source.statusOrBlank
      exact ⟨tried.asked, .deleted cleared tried.published tried.hooks⟩
    | abandoned why =>
      have cleared := cleared_withoutHook p s!"webhook {own} abandoned: {why}"
        p.source.statusOrBlank
      have told : published (.publish (p.source.abandonment own why) :: s₁.2) =
          [p.source.abandonment own why] := by
        show p.source.abandonment own why :: published s₁.2 = _
        rw [tried.published]
        rfl
      exact ⟨tried.asked, .abandoned cleared told ((exact.notices _ s₁.1).trans tried.hooks)⟩

/-- **Taking down a source with a hook** deletes the hook, leaves it and tells somebody, or fails,
and asks GitLab for the deletion or for nothing. -/
theorem finalize_dismissed (exact : p.team.Exact p.source hooks) {id : Int}
    (recorded : p.source.statusOrBlank.webhookId = some id) {w : W} (start : hooks w = some held) :
    (asked (p.partings w) = [] ∨ ∃ r, asked (p.partings w) = [.deleteHook id r]) ∧
      Dismissed p.source hooks held id (p.finalize w).2 (p.partings w) (p.finalize w).1 := by
  have dismissed := (finalize_departs p.recorded (w, [])).dismissed exact recorded start
  obtain ⟨answer, world⟩ := p.finalize_recorded (w, [])
  rwa [answer, world] at dismissed

/-- Taking down a source without a hook does nothing. -/
theorem finalize_unrecorded (unrecorded : p.source.statusOrBlank.webhookId = none) (w : W) :
    p.finalize w = (.ok p.source.statusOrBlank, w) ∧ p.partings w = [] := by
  have nothing {V : Type} (q : Pass V) (same : q.source = p.source) (v : V) :
      q.finalize v = (.ok p.source.statusOrBlank, v) := by
    rw [← same] at unrecorded ⊢
    rw [finalize, unrecorded]
    rfl
  constructor
  · exact nothing p rfl w
  · rw [partings, nothing p.recorded rfl (w, [])]

/-! ## A pass that creates a hook -/

/-- What synchronising a hook leaves behind: no hook was created, or one was, and nothing else
happened to the hooks. -/
def Creates (hooks : W → Option Held) (held : Held) (s s' : W × List Call)
    (answer : Except Hook.Error Hook.Outcome) : Prop :=
  made s'.2 = made s.2 ∨ ∃ outcome options, answer = .ok outcome ∧ held outcome.id = none ∧
    hooks s'.1 = some (Function.update held outcome.id (some options))

theorem createNew_creates {client : Hook.Client W} {count : Counter → Act W Unit}
    (counters : ∀ n, (count n).Within (Drift.fixing hooks)) (exact : client.Exact hooks)
    {options : Hook.Options} {outcome : Int → Hook.Outcome} (numbered : ∀ id, (outcome id).id = id)
    {answer : Except Hook.Error Hook.Outcome} (start : hooks s.1 = some held)
    (run : Hook.createNew (Hook.countRecorded count) client.recorded options outcome s =
      (answer, s')) : Creates hooks held s s' answer := by
  rw [Hook.createNew, Act.bind_apply, Hook.counted_apply] at run
  rcases created : client.create options s.1 with ⟨r, w₁⟩
  have recorded : client.recorded.create options s = (r, w₁, .createHook options r :: s.2) := by
    show (_, _, _ :: s.2) = _
    rw [created]
  rw [recorded] at run
  cases r with
  | error e =>
    cases run
    exact .inl (made_refused options e s.2)
  | ok hook =>
    cases run
    obtain ⟨fresh, left⟩ := exact.created start created
    refine .inr ⟨outcome hook.id, options, rfl, ?_, ?_⟩
    · rw [numbered, fresh]
    · rw [numbered]
      exact (counters _ w₁).trans left

theorem overwrite_made {client : Hook.Client W} {count : Counter → Act W Unit}
    {options : Hook.Options} {id : Int} {answer : Except Hook.Error Hook.Outcome}
    (run : Hook.overwrite (Hook.countRecorded count) client.recorded options id s =
      (answer, s')) : made s'.2 = made s.2 := by
  rw [Hook.overwrite, Act.bind_apply, Hook.counted_apply] at run
  rcases edited : client.edit id options s.1 with ⟨r, w₁⟩
  have recorded : client.recorded.edit id options s = (r, w₁, .editHook id options r :: s.2) := by
    show (_, _, _ :: s.2) = _
    rw [edited]
  rw [recorded] at run
  cases r with
  | ok hook =>
    cases run
    rfl
  | error e =>
    cases run
    rfl

theorem sync_creates {client : Hook.Client W} {count : Counter → Act W Unit}
    (counters : ∀ n, (count n).Within (Drift.fixing hooks)) (exact : client.Exact hooks)
    {options : Hook.Options} {recorded : Option Int} {answer : Except Hook.Error Hook.Outcome}
    (start : hooks s.1 = some held)
    (run : Hook.sync (Hook.countRecorded count) client.recorded options recorded s =
      (answer, s')) : Creates hooks held s s' answer := by
  cases recorded with
  | none => exact createNew_creates counters exact (fun _ => rfl) start run
  | some id =>
    rw [Hook.sync, Act.bind_apply, Hook.counted_apply] at run
    rcases looked : client.get id s.1 with ⟨r, w₁⟩
    have recorded : client.recorded.get id s = (r, w₁, .getHook id r :: s.2) := by
      show (_, _, _ :: s.2) = _
      rw [looked]
    rw [recorded] at run
    have still : hooks w₁ = some held := ((exact.get id).moved looked).trans start
    have reached (n : Counter) :
        hooks (Hook.countRecorded count n (w₁, .getHook id r :: s.2)).2.1 = some held :=
      (counters n w₁).trans still
    have same (n : Counter) :
        made (Hook.countRecorded count n (w₁, .getHook id r :: s.2)).2.2 = made s.2 := rfl
    cases r with
    | ok hook =>
      dsimp only at run
      exact .inl ((overwrite_made run).trans (same _))
    | error e =>
      cases missing : e.isNotFound with
      | false =>
        simp only [missing, Bool.false_eq_true, if_false] at run
        cases run
        exact .inl rfl
      | true =>
        simp only [missing, if_true] at run
        exact (createNew_creates counters exact (fun _ => rfl) (reached _) run).imp_left
          fun kept => kept.trans (same _)

theorem syncHook_creates (exact : p.team.Exact p.source hooks) {scope : Scope} {access : String}
    {options : Hook.Options} {recorded : Option Int} {answer : Except Hook.Error Hook.Outcome}
    (inScope : p.source.spec.scope = .ok scope) (start : hooks s.1 = some held)
    (run : p.recorded.syncHook scope access options recorded s = (answer, s')) :
    Creates hooks held s s' answer := by
  rw [syncHook, Act.bind_apply] at run
  rcases opened : p.recorded.team.hooks.client scope access s with ⟨client, s₁⟩
  have moved := (client_aside exact inScope access).moved opened
  have same : made s₁.2 = made s.2 := by
    rw [show p.recorded.team = p.team.recorded from rfl, p.team.client_recorded] at opened
    cases opened
    rfl
  rw [opened] at run
  cases client with
  | error e =>
    cases run
    exact .inl same
  | ok client =>
    obtain ⟨c, handed, rfl⟩ := p.team.exists_client opened
    have reached := (Drift.hooks_of_aside moved).trans start
    have clientExact := (exact.provider inScope).clients handed
    exact (sync_creates exact.others.counters clientExact reached run).imp_left fun kept =>
      kept.trans same

/-- **A pass that creates a hook** records it, and does nothing else to the hooks. -/
theorem converge_creates (exact : p.team.Exact p.source hooks) {w : W} (start : hooks w = some held)
    (new : made (p.calls w) ≠ []) :
    ∃ id options, (p.converge w).1.status.webhookId = some id ∧ held id = none ∧
      hooks (p.converge w).2 = some (Function.update held id (some options)) := by
  have still : p.recorded.team.Within (Drift.aside hooks made) := {
    sinks := fun _ _ => (exact.others.sinks _ _).aside fun _ _ => rfl
    lists := fun _ => (exact.others.lists _).aside fun _ _ => rfl
    creates := fun _ => (exact.others.creates _).aside fun _ _ => rfl
    secrets := fun _ _ => (exact.others.secrets _ _).aside fun _ _ => rfl
    notices := fun n _ => (exact.notices n).aside fun _ _ => rfl
    counters := fun _ => (exact.others.counters _).aside fun _ _ => rfl }
  have onHook := converge_onHook still (w, [])
  obtain ⟨answer, world⟩ := p.converge_recorded (w, [])
  rw [answer] at onHook
  rw [← world]
  rw [calls] at new
  generalize (p.recorded.converge (w, [])).2 = s' at onHook new ⊢
  generalize (p.converge w).1 = o at onHook ⊢
  cases onHook with
  | untouched moved kept => exact absurd (Drift.view_of_aside moved) new
  | failed moved inScope failed left kept =>
    have reached := (Drift.hooks_of_aside moved).trans start
    obtain same | ⟨outcome, options, created, -⟩ := syncHook_creates exact inScope reached failed
    · have before := same.trans (Drift.view_of_aside moved)
      exact absurd ((Drift.view_of_aside left).trans before) new
    · cases created
  | @synced s₃ s₄ scope access wanted outcome moved inScope synced recorded =>
    have reached := (Drift.hooks_of_aside moved).trans start
    have proclaimed : (Drift.aside hooks made).rel s₄ (p.recorded.proclaim scope outcome s₄).2 := by
      unfold proclaim
      split
      · exact (exact.notices _).aside (fun _ _ => rfl) s₄
      · exact (Drift.aside hooks made).refl s₄
    obtain same | ⟨new_, options, created, fresh, left⟩ :=
      syncHook_creates exact inScope reached synced
    · have before := same.trans (Drift.view_of_aside moved)
      exact absurd ((Drift.view_of_aside proclaimed).trans before) new
    · obtain rfl := Except.ok.inj created
      exact ⟨outcome.id, options, recorded, fresh, (Drift.hooks_of_aside proclaimed).trans left⟩

/-- **Taking a source down is exact, can be repeated, and undoes a pass.** Without a recorded hook
nothing happens; with one it is dismissed, and GitLab is asked for nothing but its deletion. Where
the source is taken down once more with the status that came out, nothing happens. And where a pass
created a hook and the source is then taken down without leaving the hook behind, the hooks are the
same as before the pass. -/
theorem finalize_exact (exact : p.team.Exact p.source hooks) {w : W} (start : hooks w = some held) :
    (p.source.statusOrBlank.webhookId = none →
      p.finalize w = (.ok p.source.statusOrBlank, w) ∧ p.partings w = []) ∧
    (∀ id, p.source.statusOrBlank.webhookId = some id →
      (asked (p.partings w) = [] ∨ ∃ r, asked (p.partings w) = [.deleteHook id r]) ∧
        Dismissed p.source hooks held id (p.finalize w).2 (p.partings w) (p.finalize w).1) ∧
    (∀ st, (p.finalize w).1 = .ok st → ∀ (q : Pass W) (v : W), q.source.status = some st →
      q.finalize v = (.ok st, v) ∧ q.partings v = []) ∧
    (made (p.calls w) ≠ [] → ∀ (now : Time.Instant) (q : Pass W) (v : W),
      q = p.again now (p.converge w).1.status → hooks v = hooks (p.converge w).2 →
      ∀ st, (q.finalize v).1 = .ok st → published (q.partings v) = [] →
        hooks (q.finalize v).2 = hooks w) := by
  refine ⟨fun unrecorded => finalize_unrecorded unrecorded w,
    fun id recorded => finalize_dismissed exact recorded start, ?again, ?undone⟩
  case again =>
    intro st ended q v continued
    have here : q.source.statusOrBlank = st := by rw [Source.statusOrBlank, continued]; rfl
    have forgotten : q.source.statusOrBlank.webhookId = none := by
      rw [here]
      exact webhookId_finalize ended
    rw [← here]
    exact finalize_unrecorded forgotten v
  case undone =>
    intro new now q v continued same st ended untold
    subst continued
    obtain ⟨id, options, recorded, fresh, left⟩ := converge_creates exact start new
    have later : (p.again now (p.converge w).1.status).team.Exact
        (p.again now (p.converge w).1.status).source hooks :=
      ⟨exact.others, exact.notices, exact.provider⟩
    obtain ⟨-, dismissed⟩ := finalize_dismissed later recorded (same.trans left)
    rw [ended] at dismissed
    cases dismissed with
    | deleted cleared untold gone =>
      rw [gone, start, Function.update_idem, ← fresh, Function.update_eq_self]
    | abandoned cleared told kept =>
      rw [told] at untold
      cases untold

/-! ## In memory -/

theorem exact_inMemory (s : Source) :
    InMemory.collaborators.Exact s fun w => w.hooks.truth where
  others := InMemory.within_hooks.mono fun same => congrArg Hook.Store.truth same
  notices _ _ := rfl
  provider _ := Hook.Store.provider_exact InMemory.lawful_hooksPart _

/-- The source in memory that is taken down after a first pass. -/
def leaving : Pass InMemory :=
  (InMemory.passOver InMemory.source).again ⟨60⟩
    ((InMemory.passOver InMemory.source).converge InMemory.untouched).1.status

/-- A first pass creates a hook, and taking the source down leaves the hooks as they were before. -/
theorem finalize_exact_untouched :
    made ((InMemory.passOver InMemory.source).calls InMemory.untouched) = [1] ∧
    leaving.source.statusOrBlank.webhookId = some 1 ∧
    ∃ v st, v = ((InMemory.passOver InMemory.source).converge InMemory.untouched).2 ∧
      (leaving.finalize v).1 = .ok st ∧ asked (leaving.partings v) = [.deleteHook 1 (.ok ())] ∧
      published (leaving.partings v) = [] ∧
      (leaving.finalize v).2.hooks.truth = InMemory.untouched.hooks.truth := by
  have created : made ((InMemory.passOver InMemory.source).calls InMemory.untouched) = [1] := by
    decide +kernel
  have truthful : InMemory.untouched.hooks.Truthful := ⟨by decide, fun _ _ => rfl⟩
  have exact : (InMemory.passOver InMemory.source).team.Exact
    (InMemory.passOver InMemory.source).source fun w => w.hooks.truth :=
    exact_inMemory InMemory.source
  have undone := (finalize_exact exact truthful.truth).2.2.2
  refine ⟨created, by decide +kernel, _, _, rfl, rfl, rfl, rfl, ?_⟩
  refine undone (by rw [created]; exact List.cons_ne_nil _ _) ⟨60⟩ leaving _ rfl rfl _ rfl ?_
  rfl

end Pass

end HookRelay

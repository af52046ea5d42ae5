import HookRelay.Controller.Basic
import HookRelay.Proofs.Pass.Served
import HookRelay.Proofs.Pass.Throughout
import HookRelay.Proofs.Source.Recorded

/-!
# What one look at a source leaves behind

GitLab holds the hooks of a source, and the cluster stores the number of the one that is its own.
A look at the source writes to both, to GitLab first. Whatever the cluster answers meanwhile, a
look leaves everything as it is, or writes the fields of one hook, or takes the source down. The
number of a hook that was written is stored then, unless the cluster refused the status.

## Main definitions

* `Sight` : one source, as the cluster and GitLab hold it
* `Sight.Shows` : the source as it is read from the cluster
* `Lawful` : GitLab is up, and nobody but the controller writes the status of the source
* `Saves` : what a cluster does with a status that it is sent
* `Effect` : what a look does to the hooks and to the stored number

## Main statements

* `reconcile_effect` : every look does one of these
-/

namespace HookRelay.Controller

open Cluster (Request)
open Hook (Held Synced)

variable {W : Type}

/-- One source, as the cluster and GitLab hold it. -/
structure Sight (W : Type) where
  namespace_ : String
  name : String
  scope : Scope
  /-- The source as the cluster stores it. -/
  object : W → Json
  /-- The hooks of the scope, as long as GitLab is up. -/
  gitlab : W → Option Held

namespace Sight

variable (v : Sight W)

/-- The stored status. -/
def status (w : W) : Option Json := (v.object w).get? "status"

/-- The stored number of the hook, the `webhookId` of the status. -/
def recorded (w : W) : Option Int := Source.recordedId (v.object w)

/-- What is stored and what GitLab holds. -/
def both (w : W) : Option Json × Option Held := (v.status w, v.gitlab w)

/-- What happens to a world in which neither of the two changes. -/
def still : Drift W := Drift.fixing v.both

/-- The place to which the status is written, `/status` below the source. -/
def place : String := Source.resource.path v.namespace_ ++ "/" ++ v.name ++ "/status"

/-- A source of this name and scope, with the stored number of the hook. -/
structure Knows (w : W) (s : Source) : Prop where
  inNamespace : s.namespaceOrEmpty = v.namespace_
  named : s.metadata.displayName = v.name
  inScope : ∀ scope, s.spec.scope = .ok scope → scope = v.scope
  webhookId : s.statusOrBlank.webhookId = v.recorded w

/-- A source that is read from what the cluster stores. Neither its name nor its scope changes. -/
structure Shows (w : W) (s : Source) : Prop where
  stored : Source.IsStored (v.object w)
  read : Source.ofJson (v.object w) = .ok s
  inNamespace : s.namespaceOrEmpty = v.namespace_
  named : s.metadata.displayName = v.name
  inScope : ∀ scope, s.spec.scope = .ok scope → scope = v.scope

variable {v} {w w' : W} {s : Source}

theorem recorded_of_status (same : v.status w' = v.status w) : v.recorded w' = v.recorded w :=
  congrArg (Option.bind · Source.recordedIn) same

theorem Shows.knows (shown : v.Shows w s) : v.Knows w s where
  inNamespace := shown.inNamespace
  named := shown.named
  inScope := shown.inScope
  webhookId := Source.webhookId_of_ofJson shown.stored shown.read

theorem Knows.moved (known : v.Knows w s) (same : v.status w' = v.status w) : v.Knows w' s :=
  { known with webhookId := known.webhookId.trans (recorded_of_status same).symm }

end Sight

/-- **GitLab is up (`Provider.Serves`), and nobody but the controller writes the status of a
source.** The cluster stores a status that it is sent, or it refuses it; it may also store one and
answer nothing that can be read. All other requests may end in any way. -/
structure Lawful (c : Controller W) (v : Sight W) : Prop where
  hooks : c.team.ServesHooks v.scope v.gitlab
  apart : c.team.Throughout (Drift.fixing v.status)
  others : ∀ r : Request, (∀ patch, r.content ≠ .merge patch) → (c.api.send r).Within v.still
  saves : ∀ {path query patch w w' r}, Cluster.target? v.place = some (path, query) →
    c.api.send ⟨path, query, .merge patch⟩ w = (r, w') → v.gitlab w' = v.gitlab w ∧
      (v.status w' = v.status w ∧ 400 ≤ r.status ∧ r.status < 600 ∨
        v.status w' = (Json.merge (v.object w) patch).get? "status")
  registry : ∀ g w, v.both (c.registry.set g w) = v.both w

variable {c : Controller W} {v : Sight W} {s : Source} {st : Source.Status} {hooks : Held}
  {w : W} {now : Time.Instant}

/-! ## What is done beside -/

section Beside

variable {d : Drift W}

theorem within_settle (registry : ∀ g w, d.rel w (c.registry.set g w))
    (counters : ∀ n, (c.team.count n).Within d) (s : Source) (r : Requeue) :
    (c.settle s r).Within d := by
  have forgotten : (c.policy.reset (Retry.sourceKey s)).Within d := fun w => registry _ w
  exact forgotten.bind fun _ => (counters _).bind fun _ => Act.within_pure _

/-- A change does to the world what sending it does. -/
theorem within_change {α : Type} {content : Request.Content} {read : Json.Decoder α}
    (sends : ∀ r : Request, r.content = content → (c.api.send r).Within d)
    (path name part : String) : (c.api.change path name part content read).Within d := by
  unfold Cluster.Api.change
  split
  · exact Act.within_pure _
  · unfold Cluster.Api.call
    split
    · exact Act.within_pure _
    · exact (sends _ rfl).bind fun _ => Act.within_pure _

theorem within_saveStatus
    (sends : ∀ (r : Request) patch, r.content = .merge patch → (c.api.send r).Within d)
    (s : Source) (st : Source.Status) : (c.saveStatus s st).Within d := by
  unfold saveStatus
  split
  · exact Act.within_pure _
  · refine (within_change (fun r merges => sends r _ merges) _ _ _).bind fun answer => ?_
    cases answer with
    | error e => exact Act.within_pure _
    | ok stored => exact Act.within_pure _

theorem within_changeMarks {patch : Json.Patch}
    (sends : ∀ r : Request, r.content = .operations patch → (c.api.send r).Within d) (s : Source)
    (name : String) : (c.changeMarks s name patch).Within d := by
  refine (within_change sends _ _ _).bind fun answer => ?_
  cases answer with
  | error e => exact Act.within_pure _
  | ok changed => exact Act.within_pure _

theorem within_markSource
    (sends : ∀ r : Request, r.content = .operations (putMark s) → (c.api.send r).Within d) :
    (c.markSource s).Within d := by
  unfold markSource
  cases s.metadata.name with
  | none => exact Act.within_pure _
  | some name =>
    refine (within_changeMarks sends s name).bind fun answer => ?_
    cases answer with
    | error e => exact Act.within_pure _
    | ok u => exact Act.within_pure _

end Beside

namespace Lawful

variable (lawful : c.Lawful v)
include lawful

theorem within_count (n : Counter) : (c.team.count n).Within v.still := fun w =>
  Prod.ext (lawful.apart.others.counters n w) (lawful.hooks.others.counters n w)

theorem within_operations {patch : Json.Patch} (r : Request)
    (changes : r.content = .operations patch) : (c.api.send r).Within v.still := by
  refine lawful.others r fun other merges => ?_
  rw [changes] at merges
  cases merges

theorem within_settle (s : Source) (r : Requeue) : (c.settle s r).Within v.still :=
  Controller.within_settle lawful.registry lawful.within_count s r

end Lawful

/-! ## Writing the status -/

/-- What became of a status that was to be stored. -/
structure Saved (v : Sight W) (st : Source.Status) (w : W) (answer : Except Cluster.Error Unit)
    (w' : W) : Prop where
  gitlab : v.gitlab w' = v.gitlab w
  recorded : v.recorded w' = st.webhookId ∨
    v.recorded w' = v.recorded w ∧ ∃ e, answer = .error e

theorem Saved.unsent (v : Sight W) (st : Source.Status) (w : W) (e : Cluster.Error) :
    Saved v st w (.error e) w :=
  ⟨rfl, .inr ⟨rfl, e, rfl⟩⟩

theorem decode_of_refused {α : Type} (read : Json.Decoder α) {r : Cluster.Response}
    (least : 400 ≤ r.status) (most : r.status < 600) : r.decode read = .error r.refusal := by
  rw [Cluster.Response.decode, if_pos]
  simp [least, most]

/-- What became of a status that was sent. It is stored, or it is not and the answer says so or
cannot be read. -/
def Taken (v : Sight W) (patch : Json) (w : W) (r : Cluster.Response) (w' : W) : Prop :=
  (v.status w' = v.status w ∧ ∃ e, r.decode Source.record.decode = .error e) ∨
    v.status w' = (Json.merge (v.object w) patch).get? "status"

/-- A status that is sent is stored, or the answer is an error; the hooks stay as they are. -/
def Saves (api : Cluster.Api W) (v : Sight W) : Prop :=
  ∀ {path query patch w w' r}, Cluster.target? v.place = some (path, query) →
    api.send ⟨path, query, .merge patch⟩ w = (r, w') →
      v.gitlab w' = v.gitlab w ∧ Taken v patch w r w'

theorem Lawful.toSaves (lawful : c.Lawful v) : Saves c.api v := by
  intro path query patch w w' r written sent
  obtain ⟨gitlab, ⟨same, least, most⟩ | stored⟩ := lawful.saves written sent
  · exact ⟨gitlab, .inl ⟨same, _, decode_of_refused _ least most⟩⟩
  · exact ⟨gitlab, .inr stored⟩

theorem writeStatus_saved (saves : Saves c.api v) (st : Source.Status) (w : W) :
    Saved v st w (Source.writeStatus c.api v.namespace_ v.name st w).1
      (Source.writeStatus c.api v.namespace_ v.name st w).2 := by
  unfold Source.writeStatus Cluster.Api.change
  split
  · exact .unsent v st w .unnamed
  · unfold Cluster.Api.call
    cases written : Cluster.target? v.place with
    | none =>
      rw [Sight.place] at written
      rw [written]
      exact .unsent v st w .illegalPath
    | some target =>
      obtain ⟨path, query⟩ := target
      rcases sent : c.api.send ⟨path, query, .merge (Source.statusPatch st)⟩ w with ⟨r, w'⟩
      obtain ⟨gitlab, stored⟩ := saves written sent
      rw [Sight.place] at written
      rw [written]
      dsimp only
      rw [Act.bind_apply, Act.bind_apply, sent]
      obtain ⟨same, e, failed⟩ | merged := stored
      · rw [failed]
        exact ⟨gitlab, .inr ⟨Sight.recorded_of_status same, _, rfl⟩⟩
      · -- what is stored has the number, whatever can be read of the answer
        have recorded : v.recorded w' = st.webhookId :=
          (congrArg (Option.bind · Source.recordedIn) merged).trans (Source.recordedId_merge _ st)
        cases r.decode Source.record.decode with
        | error e => exact ⟨gitlab, .inl recorded⟩
        | ok u => exact ⟨gitlab, .inl recorded⟩

/-- A status that is to be stored is stored, or the answer is an error. -/
theorem saveStatus_saved (saves : Saves c.api v) (known : v.Knows w s) (st : Source.Status) :
    Saved v st w (c.saveStatus s st w).1 (c.saveStatus s st w).2 := by
  unfold saveStatus
  split
  · next same =>
    -- nothing is sent if the source has the status already
    have recorded := known.webhookId
    rw [Source.statusOrBlank, same] at recorded
    exact ⟨rfl, .inl recorded.symm⟩
  · rw [known.inNamespace, known.named]
    exact writeStatus_saved saves st w

/-! ## The two ends of a look -/

/-- What a look at a source does to the hooks and to the stored number. -/
inductive Effect (v : Sight W) (s : Source) (w : W) (hooks : Held) (unsaved : Prop) (w' : W) :
    Prop where
  /-- Nothing. -/
  | quiet (left : v.gitlab w' = some hooks) (recorded : v.recorded w' = v.recorded w)
  /-- A hook is made as it should be, and its number is stored or not. -/
  | synced {outcome : Hook.Outcome} {options : Hook.Options}
      (standing : s.metadata.deleting = false) (synced : Synced hooks (v.recorded w) outcome)
      (left : v.gitlab w' = some (Function.update hooks outcome.id (some options)))
      (saved : v.recorded w' = some outcome.id ∨ v.recorded w' = v.recorded w ∧ unsaved)
  /-- The source is taken down. -/
  | released (deleting : s.metadata.deleting = true)
      (left : v.gitlab w' = some hooks ∨
        ∃ id, v.recorded w = some id ∧ v.gitlab w' = some (Function.update hooks id none))
      (recorded : v.recorded w' = v.recorded w ∨ v.recorded w' = none)

theorem Effect.imp {unsaved unsaved' : Prop} {w' : W} (effect : Effect v s w hooks unsaved w')
    (weaker : unsaved → unsaved') : Effect v s w hooks unsaved' w' := by
  cases effect with
  | quiet left recorded => exact .quiet left recorded
  | synced standing synced left saved =>
    exact .synced standing synced left (saved.imp_right fun unstored =>
      ⟨unstored.1, weaker unstored.2⟩)
  | released deleting left recorded => exact .released deleting left recorded

/-- What comes before a look and changes nothing does not count. -/
theorem Effect.after {unsaved : Prop} {w₀ w' : W} (effect : Effect v s w hooks unsaved w')
    (same : v.both w = v.both w₀) : Effect v s w₀ hooks unsaved w' := by
  have recorded := Sight.recorded_of_status (congrArg Prod.fst same)
  cases effect with
  | quiet left kept => exact .quiet left (kept.trans recorded)
  | synced standing synced left saved =>
    rw [recorded] at synced saved
    exact .synced standing synced left saved
  | released deleting left kept =>
    rw [recorded] at left kept
    exact .released deleting left kept

/-- What comes behind a look and changes nothing does not count. -/
theorem Effect.before {unsaved : Prop} {w₁ w' : W} (effect : Effect v s w hooks unsaved w₁)
    (same : v.both w' = v.both w₁) : Effect v s w hooks unsaved w' := by
  have recorded := Sight.recorded_of_status (congrArg Prod.fst same)
  have gitlab : v.gitlab w' = v.gitlab w₁ := congrArg Prod.snd same
  cases effect with
  | quiet left kept => exact .quiet (gitlab.trans left) (recorded.trans kept)
  | synced standing synced left saved =>
    rw [← gitlab] at left
    rw [← recorded] at saved
    exact .synced standing synced left saved
  | released deleting left kept =>
    rw [← gitlab] at left
    rw [← recorded] at kept
    exact .released deleting left kept

section Ends

variable (lawful : c.Lawful v) (known : v.Knows w s) (up : v.gitlab w = some hooks)
include lawful known up

/-- What bringing a source to what it asks for does, once its status was to be stored. -/
theorem converge_effect (standing : s.metadata.deleting = false)
    {answer : Except Cluster.Error Unit} {w' : W}
    (saved : Saved v ((c.pass now s).converge w).1.status ((c.pass now s).converge w).2 answer w') :
    Effect v s w hooks (∃ e, answer = .error e) w' := by
  have recorded : v.recorded ((c.pass now s).converge w).2 = v.recorded w :=
    Sight.recorded_of_status (Pass.within_converge (p := c.pass now s) lawful.apart w)
  have start : (c.pass now s).source.statusOrBlank.webhookId = v.recorded w := known.webhookId
  have served := Pass.converge_served (p := c.pass now s) lawful.hooks known.inScope up
  rw [start] at served
  obtain ⟨left, kept⟩ | ⟨outcome, options, synced, left, written⟩ := served
  · refine .quiet (saved.gitlab.trans left) ?_
    obtain stored | ⟨unstored, -⟩ := saved.recorded
    · exact stored.trans kept
    · exact unstored.trans recorded
  · refine .synced standing synced (saved.gitlab.trans left) ?_
    obtain stored | ⟨unstored, refused⟩ := saved.recorded
    · exact .inl (stored.trans written)
    · exact .inr ⟨unstored.trans recorded, refused⟩

theorem apply_effect (standing : s.metadata.deleting = false) :
    Effect v s w hooks (∃ e, (c.apply now s w).1 = .error (.cluster e)) (c.apply now s w).2 := by
  have status : v.status ((c.pass now s).converge w).2 = v.status w :=
    Pass.within_converge (p := c.pass now s) lawful.apart w
  have saved :=
    saveStatus_saved lawful.toSaves (known.moved status) ((c.pass now s).converge w).1.status
  rcases written : c.saveStatus s ((c.pass now s).converge w).1.status
    ((c.pass now s).converge w).2 with ⟨answer, w₂⟩
  rw [written] at saved
  have effect : Effect v s w hooks (∃ e, answer = .error e) w₂ :=
    converge_effect lawful known up standing saved
  unfold apply
  rw [Act.bind_apply, Act.bind_apply, written]
  cases answer with
  | error e => exact effect.imp fun _ => ⟨e, rfl⟩
  | ok u =>
    have stored : ¬∃ e : Cluster.Error, Except.ok u = .error e := nofun
    dsimp only
    cases ((c.pass now s).converge w).1.result with
    | error e => exact effect.imp fun unsaved => absurd unsaved stored
    | ok requeue =>
      exact (effect.imp fun unsaved => absurd unsaved stored).before
        (lawful.within_settle s requeue w₂)

theorem cleanup_effect (deleting : s.metadata.deleting = true) :
    Effect v s w hooks False (c.cleanup now s w).2 := by
  have status : v.status ((c.pass now s).finalize w).2 = v.status w :=
    Pass.within_finalize (p := c.pass now s) lawful.apart w
  have start : (c.pass now s).source.statusOrBlank.webhookId = v.recorded w := known.webhookId
  have left := Pass.finalize_served (p := c.pass now s) lawful.hooks known.inScope up
  rw [start] at left
  unfold cleanup
  rw [Act.bind_apply]
  rcases run : (c.pass now s).finalize w with ⟨answer, w₁⟩
  rw [run] at status left
  have recorded : v.recorded w₁ = v.recorded w := Sight.recorded_of_status status
  cases answer with
  | error e => exact .released deleting left (.inl recorded)
  | ok st =>
    have saved : Saved v st w₁ (c.saveStatus s st w₁).1 (c.saveStatus s st w₁).2 :=
      saveStatus_saved lawful.toSaves (known.moved status) st
    have blank : st.webhookId = none :=
      Pass.webhookId_finalize (p := c.pass now s) (congrArg Prod.fst run)
    refine .released deleting ?_ ?_
    · exact saved.gitlab.symm ▸ left
    · obtain stored | ⟨unstored, -⟩ := saved.recorded
      · exact .inr (stored.trans blank)
      · exact .inl (unstored.trans recorded)

theorem release_effect (deleting : s.metadata.deleting = true) (index : Nat) :
    Effect v s w hooks False (c.release now s index w).2 := by
  unfold release
  cases s.metadata.name with
  | none => exact .quiet up rfl
  | some name =>
    have effect : Effect v s w hooks False (c.cleanup now s w).2 :=
      cleanup_effect lawful known up deleting
    dsimp only
    rw [Act.bind_apply]
    rcases run : c.cleanup now s w with ⟨answer, w₁⟩
    rw [run] at effect
    cases answer with
    | error e => exact effect
    | ok delay =>
      refine effect.before (Act.Within.bind (d := v.still)
        (within_changeMarks lawful.within_operations s name) (fun taken => ?_) w₁)
      cases taken with
      | error e => exact Act.within_pure _
      | ok u => exact Act.within_pure _

theorem dispatch_effect :
    Effect v s w hooks (∃ e, (c.dispatch now s w).1 = .error (.apply (.cluster e)))
      (c.dispatch now s w).2 := by
  unfold dispatch
  cases marked : markIndex? s with
  | none =>
    cases deleting : s.metadata.deleting with
    | true => exact .quiet up rfl
    | false => exact (Effect.quiet up rfl).before (within_markSource lawful.within_operations w)
  | some index =>
    cases deleting : s.metadata.deleting with
    | true => exact (release_effect lawful known up deleting index).imp False.elim
    | false =>
      have effect : Effect v s w hooks (∃ e, (c.apply now s w).1 = .error (.cluster e))
          (c.apply now s w).2 := apply_effect lawful known up deleting
      dsimp only
      rw [Act.bind_apply]
      rcases run : c.apply now s w with ⟨answer, w₁⟩
      rw [run] at effect
      cases answer with
      | error e =>
        refine effect.imp fun refused => ?_
        obtain ⟨cause, same⟩ := refused
        exact ⟨cause, congrArg (Except.error ∘ Error.apply) (Except.error.inj same)⟩
      | ok delay =>
        refine effect.imp fun refused => ?_
        obtain ⟨cause, same⟩ := refused
        cases same

end Ends

/-- **What a look at a source leaves behind**: everything as it was, or one hook as it should be,
or the source taken down. The number of the hook is stored then, or the answer is that the cluster
refused the status. -/
theorem reconcile_effect (lawful : c.Lawful v) (shown : v.Shows w s)
    (up : v.gitlab w = some hooks) :
    Effect v s w hooks (∃ e, (c.reconcile now s w).1 = .error (.apply (.cluster e)))
      (c.reconcile now s w).2 := by
  have counted := lawful.within_count .reconciliation w
  have known : v.Knows (c.team.count .reconciliation w).2 s :=
    shown.knows.moved (congrArg Prod.fst counted)
  have up : v.gitlab (c.team.count .reconciliation w).2 = some hooks :=
    (congrArg Prod.snd counted).trans up
  refine Effect.before (Effect.after ?_ counted) (lawful.within_count .reconciliationDuration _)
  exact dispatch_effect lawful known up

end HookRelay.Controller

import HookRelay.Proofs.Controller.Entries
import HookRelay.Proofs.Controller.OneSource
import HookRelay.Proofs.Pass.OneHook
import HookRelay.Proofs.Source.ReadBack

/-!
# What is stored behind a pass

Whether a pass succeeds or fails, the status that it arrived at is what the cluster stores for the
source afterwards. It is sent if the source was read with another one, and then once; otherwise it
stands there already, and nothing is sent.

## Main definitions

* `requests` : the requests on a log
* `Accepts` : a cluster that stores the statuses that it is sent

## Main statements

* `fits_converge` : the numbers in the status of a pass have 64 bits
* `saveStatus_stored` : a status that is sent is stored
* `apply_stores` : a status replaces the one that is stored, and is sent if it is another one
-/

namespace HookRelay

open Json (Fits)

/-! ## The status of a pass -/

namespace Pass

variable {W : Type}

/-- Where nobody looks at the hooks, no collaborator makes one appear. -/
theorem keepsHooks_unseen (team : Collaborators W) (σ : Scope) :
    team.KeepsHooks σ fun _ _ => none where
  others := ⟨fun _ _ _ _ => id, fun _ _ _ => id, fun _ _ _ => id, fun _ _ _ _ => id,
    fun _ _ _ _ => id, fun _ _ _ => id⟩
  notices _ _ _ := id
  provider := {
    opens _ _ _ := id
    clients _ := {
      get _ _ _ := id
      missing _ _ := rfl
      edit _ _ _ _ := id
      created _ _ none := by cases none
      refused _ _ := id } }

/-- The hook that a pass records is the one that was recorded, or one that it created. -/
theorem webhookId_converge (p : Pass W) (w : W) :
    (p.converge w).1.status.webhookId = p.source.statusOrBlank.webhookId ∨
      ∃ id ∈ made (p.calls w), (p.converge w).1.status.webhookId = some id := by
  obtain ⟨σ, same⟩ : ∃ σ, ∀ scope, p.source.spec.scope = .ok scope → scope = σ := by
    cases inScope : p.source.spec.scope with
    | error e => exact ⟨default, nofun⟩
    | ok σ => exact ⟨σ, fun scope here => (Except.ok.inj here).symm⟩
  have renews := converge_renews (keepsHooks_unseen p.team σ) same w
  generalize (p.converge w).1.status.webhookId = id at renews ⊢
  cases renews with
  | kept left made attempts told => exact .inl rfl
  | @replaced id s' left made attempts told =>
    refine .inr ⟨id, ?_, rfl⟩
    rw [made]
    exact List.mem_cons_self ..

/-- The numbers in the status of a pass have 64 bits, if those in the source and those of the hooks
that were created do. -/
theorem fits_converge {p : Pass W} {w : W} (source : p.source.Fits)
    (created : ∀ n ∈ made (p.calls w), Fits n) : (p.converge w).1.status.Fits where
  generation := source.generation
  webhookId n recorded := by
    obtain kept | ⟨m, mem, same⟩ := webhookId_converge p w
    · exact source.statusOrBlank.webhookId n (kept ▸ recorded)
    · rw [same] at recorded
      cases recorded
      exact created n mem

end Pass

namespace Controller

open Cluster (Request)
open Source (IsKept statusIn statusPatch)

variable {W : Type}

/-! ## A cluster that stores what it is sent -/

/-- What others may do to a stored source meanwhile: anything but to its status, as long as it can
be read. -/
def meanwhile (object : W → Json) : Drift W where
  rel w w' := (object w').get? "status" = (object w).get? "status" ∧
    (IsKept (object w) → IsKept (object w'))
  refl _ := ⟨rfl, id⟩
  trans first second := ⟨second.1.trans first.1, second.2 ∘ first.2⟩

/-- The place to which the status of a source is written. -/
def statusPlace (s : Source) : String :=
  Source.resource.path s.namespaceOrEmpty ++ "/" ++ s.metadata.displayName ++ "/status"

/-- **The cluster stores the statuses of a source that it is sent.** It answers with the object that
it stores then, in which other things may have changed. -/
structure Accepts (c : Controller W) (object : W → Json) (s : Source) (path : String)
    (query : Option String) : Prop where
  apart : c.team.Throughout (meanwhile object)
  registry : ∀ g w, (meanwhile object).rel w (c.registry.set g w)
  named : s.metadata.displayName.isEmpty = false
  addressed : Cluster.target? (statusPlace s) = some (path, query)
  stores : ∀ {st w r w'}, IsKept (object w) →
    c.api.send ⟨path, query, .merge (statusPatch st)⟩ w = (r, w') →
      r = ⟨200, .json (object w')⟩ ∧ IsKept (object w') ∧
        (object w').get? "status" = (Json.merge (object w) (statusPatch st)).get? "status"

/-- The request of an entry. -/
def Entry.request? : Entry W → Option Request
  | sent r _ => some r
  | began _ | asked _ => none

/-- The requests on a log. -/
def requests (log : List (Entry W)) : List Request := log.filterMap Entry.request?

variable {c : Controller W} {object : W → Json} {s : Source} {path : String}
  {query : Option String} {st : Source.Status} {w : W} {now : Time.Instant}

/-- The request that writes a status: a `PATCH` with `Source.statusPatch`. -/
def statusRequest (path : String) (query : Option String) (st : Source.Status) : Request :=
  ⟨path, query, .merge (statusPatch st)⟩

/-- What became of a status that is sent: it is stored, and the answer can be read. -/
theorem Accepts.call_stored (accepts : c.Accepts object s path query) (kept : IsKept (object w))
    (fits : st.Fits) (log : List (Entry W)) :
    ∃ stored w', c.recorded.api.call (statusPlace s) (.merge (statusPatch st)) Source.record.decode
        (w, log) = (.ok stored, w', .sent (statusRequest path query st) w :: log) ∧
      statusIn (object w') = .ok (some st) := by
  rcases sent : c.api.send (statusRequest path query st) w with ⟨r, w'⟩
  obtain ⟨answer, ⟨md', sp', kept'⟩, stored⟩ := accepts.stores kept sent
  obtain ⟨md, sp, kept⟩ := kept
  have status : statusIn (object w') = .ok (some st) := by
    have merged := kept.statusIn_merge fits
    rwa [statusIn, ← stored] at merged
  have read : Json.decode Source.record.decode (object w') = .ok ⟨md', sp', some st⟩ :=
    kept'.ofJson_of_statusIn status
  have decoded : r.decode Source.record.decode = .ok ⟨md', sp', some st⟩ := by
    simp [answer, Cluster.Response.decode, Cluster.Body.decode, read]
  refine ⟨⟨md', sp', some st⟩, w', ?_, status⟩
  rw [Cluster.Api.call, accepts.addressed]
  show ((c.api.send (statusRequest path query st) w).1.decode Source.record.decode,
    (c.api.send (statusRequest path query st) w).2, _ :: log) = _
  rw [sent, decoded]
  rfl

/-- **A status that is sent is stored**, and it is sent once. -/
theorem saveStatus_stored (accepts : c.Accepts object s path query) (kept : IsKept (object w))
    (fits : st.Fits) (other : s.status ≠ some st) (log : List (Entry W)) :
    ∃ w', c.recorded.saveStatus s st (w, log) =
        (.ok (), w', .sent (statusRequest path query st) w :: log) ∧
      statusIn (object w') = .ok (some st) := by
  obtain ⟨stored, w', called, status⟩ := accepts.call_stored kept fits log
  refine ⟨w', ?_, status⟩
  have nonempty : ¬s.metadata.displayName.isEmpty = true := by simp [accepts.named]
  rw [statusPlace] at called
  rw [saveStatus, if_neg other, Source.writeStatus, Cluster.Api.change, if_neg nonempty,
    Act.bind_apply, called]
  rfl

/-- A pass that succeeded is counted behind its status, and nothing is sent for it. -/
theorem settle_log (r : Requeue) (w : W) (log : List (Entry W)) :
    c.recorded.settle s r (w, log) =
      (c.delay? r, (c.settle s r w).2, .asked (.count (.requeue r.name)) :: log) := rfl

theorem requests_asked (calls : List Pass.Call) (log : List (Entry W)) :
    requests (calls.map .asked ++ log) = requests log := by
  induction calls with
  | nil => rfl
  | cons call calls ih => exact ih

/-- What comes behind a status that was saved. -/
theorem apply_of_saved {w₁ w₂ : W} {log₁ log₂ : List (Entry W)} {outcome : Pass.Outcome}
    (accepts : c.Accepts object s path query)
    (converged : (c.recorded.pass now s).converge (w, []) = (outcome, w₁, log₁))
    (saved : c.recorded.saveStatus s outcome.status (w₁, log₁) = (.ok (), w₂, log₂)) :
    (c.recorded.apply now s (w, [])).1 = outcome.result.map c.delay? ∧
    (object (c.recorded.apply now s (w, [])).2.1).get? "status" = (object w₂).get? "status" ∧
    requests (c.recorded.apply now s (w, [])).2.2 = requests log₂ := by
  unfold apply
  rw [Act.bind_apply, converged, Act.bind_apply, saved]
  cases outcome.result with
  | error e => exact ⟨rfl, rfl, rfl⟩
  | ok requeue =>
    have settled := within_settle accepts.registry accepts.apart.others.counters s requeue w₂
    dsimp only
    rw [Act.bind_apply, settle_log]
    exact ⟨rfl, settled.1, rfl⟩

/-- **A status replaces the one that is stored, and is sent if it is another one.** Whatever an
object holds as the status of a source, the merge patch that writes a status leaves an object from
which this status is read, and everything else as before. So if the cluster stores what it is sent,
the status that a pass arrives at is sent, once, exactly if the source was read with another one;
and it is what is stored behind the pass, whether the pass succeeds or fails. Only a status that is
not sent has to be the stored one already: the one that the source was read with. -/
theorem apply_stores :
    (∀ {stored : Json} {md : Cluster.Metadata} {sp : Source.Spec} {st : Source.Status},
      Source.KeptAs stored md sp → st.Fits →
        Source.ofJson (Json.merge stored (statusPatch st)) = .ok ⟨md, sp, some st⟩ ∧
        ∀ key ≠ "status", (Json.merge stored (statusPatch st)).get? key = stored.get? key) ∧
    ∀ {c : Controller W} {object s path query now w read}, c.Accepts object s path query →
      IsKept (object w) → Source.ofJson read = .ok s →
      (∀ n ∈ Pass.made ((c.pass now s).calls w), Fits n) →
        (c.apply now s w).1 = ((c.pass now s).converge w).1.result.map c.delay? ∧
        requests (c.recorded.apply now s (w, [])).2.2 =
          (if s.status = some ((c.pass now s).converge w).1.status then []
          else [statusRequest path query ((c.pass now s).converge w).1.status]) ∧
        (statusIn (object w) = .ok s.status ∨
            s.status ≠ some ((c.pass now s).converge w).1.status →
          statusIn (object (c.apply now s w).2) =
            .ok (some ((c.pass now s).converge w).1.status)) := by
  refine ⟨fun kept fits => ⟨kept.ofJson_merge fits, fun key other =>
    Source.get?_merge_statusPatch_of_ne other _ _⟩, ?_⟩
  intro c object s path query now w read accepts kept known created
  obtain ⟨answer, world⟩ := apply_recorded c now s (w, [])
  rw [← answer, ← world]
  have fits := Pass.fits_converge (p := c.pass now s) (Source.fits_of_ofJson known) created
  have moved := Pass.within_converge (p := c.pass now s) accepts.apart w
  have converged := converge_asked c now s w []
  rcases passed : (c.pass now s).converge w with ⟨outcome, w₁⟩
  rw [passed] at fits moved converged
  have quiet : requests (((c.pass now s).calls w).map .asked ++ ([] : List (Entry W))) = [] :=
    requests_asked _ []
  by_cases same : s.status = some outcome.status
  · have unsent (log : List (Entry W)) :
        c.recorded.saveStatus s outcome.status (w₁, log) = (.ok (), w₁, log) := by
      rw [saveStatus, if_pos same]
      rfl
    obtain ⟨result, left, sent⟩ := apply_of_saved accepts converged (unsent _)
    refine ⟨result, ?_, fun fresh => ?_⟩
    · rw [sent, quiet, if_pos same]
    · -- the status stands there already
      rw [statusIn, left, moved.1, ← same]
      exact fresh.resolve_right (not_not_intro same)
  · obtain ⟨w₂, saved, status⟩ := saveStatus_stored accepts (moved.2 kept) fits same
      (((c.pass now s).calls w).map .asked ++ [])
    obtain ⟨result, left, sent⟩ := apply_of_saved accepts converged saved
    refine ⟨result, ?_, fun _ => ?_⟩
    · rw [sent, if_neg same]
      exact congrArg (statusRequest path query outcome.status :: ·) quiet
    · rw [statusIn, left]
      exact status

end Controller

/-! ## A source whose status was written by somebody else -/

namespace OneSource

open Controller (Accepts meanwhile requests statusRequest)

/-- A cluster that stores every status that it is sent. -/
def storingApi : Cluster.Api OneSource where
  send r := fun w =>
    match r.content with
    | .merge patch =>
      (⟨200, .json (Json.merge w.object patch)⟩, { w with object := Json.merge w.object patch })
    | .read | .create _ | .operations _ => api.send r w

/-- The controller of such a cluster. -/
def storing : Controller OneSource := { controller with api := storingApi }

/-- The source with a status that has an address of the sink, a number that no hook has, and a key
that nobody knows. -/
def worn : Json := Json.tidy (.object (("status", .object [("webhookID", .ofInt 7),
  ("note", .string "by hand"), ("sinkUri", .string "http://old/")]) :: Json.fieldsOrNone blank))

/-- The source as it is read then. -/
def wornSource : Source :=
  { source with status := some { Source.Status.blank with
      sinkUri := some "http://old/", webhookId := some 7 } }

theorem keptAs_worn : Source.KeptAs worn wornSource.metadata wornSource.spec :=
  Source.keptAs_tidy ⟨_, rfl, rfl⟩ ⟨_, rfl, rfl⟩

theorem accepts_storing {path : String} {query : Option String}
    (addressed : Cluster.target? (Controller.statusPlace wornSource) = some (path, query)) :
    storing.Accepts OneSource.object wornSource path query where
  apart := beside fun _ _ => ⟨rfl, id⟩
  registry _ _ := ⟨rfl, id⟩
  named := by decide +kernel
  addressed := addressed
  stores {st w r w'} kept sent := by
    cases sent
    obtain ⟨md, sp, kept⟩ := kept
    exact ⟨rfl, ⟨md, sp, kept.merge st⟩, rfl⟩

/-- The world in which the source is worn. -/
def worldWorn : OneSource := { before with object := worn }

/-- The status that a pass over the worn source arrives at. -/
def freshStatus : Source.Status := ((storing.pass ⟨0⟩ wornSource).converge worldWorn).1.status

/-- The hook that is recorded is not there, and another one is made. Nothing of the former status
is left. -/
theorem stores_worn :
    Source.ofJson (Json.merge worn (Source.statusPatch .blank)) =
      .ok { wornSource with status := some .blank } ∧
    (storing.apply ⟨0⟩ wornSource worldWorn).1 = .ok (some 300) ∧
    requests (storing.recorded.apply ⟨0⟩ wornSource (worldWorn, [])).2.2 =
      [statusRequest "/apis/sources.knative.dev/v1alpha1/namespaces/team/gitlabsources/repo/status"
        none freshStatus] ∧
    Source.statusIn (storing.apply ⟨0⟩ wornSource worldWorn).2.object = .ok (some freshStatus) ∧
    freshStatus.webhookId = some 1 := by
  have addressed : Cluster.target? (Controller.statusPlace wornSource) =
      some ("/apis/sources.knative.dev/v1alpha1/namespaces/team/gitlabsources/repo/status", none) :=
    by decide +kernel
  have read : Source.ofJson worn = .ok wornSource := keptAs_worn.ofJson_of_statusIn rfl
  have other : wornSource.status ≠ some freshStatus := by decide +kernel
  have numbers : ∀ n ∈ Pass.made ((storing.pass ⟨0⟩ wornSource).calls worldWorn), Fits n := by
    decide +kernel
  have succeeds : ((storing.pass ⟨0⟩ wornSource).converge worldWorn).1.result = .ok .resync := by
    decide +kernel
  obtain ⟨replaced, -⟩ :=
    (Controller.apply_stores (W := OneSource)).1 keptAs_worn Source.Status.fits_blank
  obtain ⟨answer, sent, stored⟩ :=
    Controller.apply_stores.2 (accepts_storing addressed) ⟨_, _, keptAs_worn⟩ read numbers
  rw [succeeds] at answer
  exact ⟨replaced, answer, sent.trans (if_neg other), stored (.inr other), by decide +kernel⟩

end OneSource

end HookRelay

import HookRelay.Proofs.Pass.OnAdapter
import HookRelay.Proofs.Pass.Visits
import HookRelay.Proofs.Receiver.Kept
import HookRelay.Proofs.World.InMemory

/-!
# A source has one adapter

A source remembers nothing of its adapter: every pass looks for it in the cluster. What a pass
writes into a new service is what the next one looks for, so that no second service is asked for as
long as nobody takes the first one or its marks away, even if all that was ever heard of it was that
it could not be created.

## Main definitions

* `Collaborators.KeepsAdapters` : adapters are taken from a cluster that keeps services
* `AtMostOne` : what passes keep of the services of an owner
* `IsOf` : the passes of one source
* `Lossy` : a cluster that loses answers

## Main statements

* `OnAdapter.atMostOne` : what one pass does to the services of its source
* `Visits.one_adapter` : no more than one service is ever created for a source
-/

namespace HookRelay

variable {W : Type}

open Cluster.Memory (carries)
open Receiver (KeepsServices Stock)

/-- **Adapters are taken from a cluster that keeps services**, and the other collaborators spare
those of the owner. All of them may answer anything. -/
structure Collaborators.KeepsAdapters (team : Collaborators W) (api : Cluster.Api W)
    (stock : Stock W) (uid namespace_ : String) : Prop where
  platform : team.receivers = .ofCluster api
  keeps : KeepsServices (stock.sparing uid namespace_) stock api
  besides : team.Besides (stock.sparing uid namespace_)

namespace Pass

variable {team : Collaborators W} {api : Cluster.Api W} {stock : Stock W}
  {uid namespace_ : String} {p : Pass W} {w w' : W}

/-! ## One pass -/

/-- **What passes keep of the services of an owner**: one at most was ever created, and it can be
found. -/
structure AtMostOne (stock : Stock W) (uid namespace_ : String) (w : W) : Prop where
  one : (stock.ofOwner uid w).length ≤ 1
  found : stock.ofOwner uid w ≠ [] → stock.Holds uid namespace_ w

theorem AtMostOne.moved (h : AtMostOne stock uid namespace_ w)
    (spared : (stock.sparing uid namespace_).rel w w') : AtMostOne stock uid namespace_ w' where
  one := by
    rw [spared.1]
    exact h.one
  found some := spared.2 (h.found (spared.1 ▸ some))

/-- Where no service of the owner was ever created, one may be. -/
theorem AtMostOne.of_stores {plan : Receiver.Plan} (labelled : plan.labels = Receiver.labels)
    (none : stock.ofOwner uid w = [])
    (h : Receiver.Stores (stock.sparing uid namespace_) stock namespace_ plan.toJson w w')
    (owned : plan.owner.uid = uid) : AtMostOne stock uid namespace_ w' := by
  have atMostOne : AtMostOne stock uid namespace_ w :=
    ⟨by rw [none]; exact Nat.zero_le 1, fun some => absurd none some⟩
  cases h with
  | ignored spared => exact atMostOne.moved spared
  | @stored service w₁ w₂ _ before created there labels owners after =>
    have marked : Receiver.isOwned uid service = true := by
      rw [← (Receiver.isOwned_toJson plan).2 owned, Receiver.isOwned, owners]
      rfl
    have one : stock.ofOwner uid w₂ = [service] := by
      rw [Stock.ofOwner, created, List.filter_cons_of_pos marked]
      exact congrArg (service :: ·) (before.1.trans none)
    have stored : AtMostOne stock uid namespace_ w₂ :=
      ⟨by rw [one]; exact Nat.le_refl 1,
        fun _ => ⟨service, there, labels _ (Receiver.carries_toJson labelled), marked⟩⟩
    exact stored.moved after

/-- A source that finds no adapter of its own has none. -/
theorem ofOwner_of_unowned (keeps : p.team.KeepsAdapters api stock uid p.namespace_)
    (identified : p.source.metadata.uid = some uid)
    (h : AtMostOne stock uid p.namespace_ w) (unowned : p.ownedReceiver w = (.ok none, w')) :
    stock.ofOwner uid w' = [] := by
  obtain ⟨receivers, listed, none⟩ := ownedReceiver_ok identified unowned
  rw [keeps.platform] at listed
  obtain ⟨w₁, before, after, found⟩ := Receiver.exists_of_listed keeps.keeps listed
  by_contra some
  -- a service that was ever created was there when the adapters were listed
  have some : stock.ofOwner uid w₁ ≠ [] := after.1 ▸ some
  obtain ⟨r, mem, controlled⟩ := found ((h.moved before).found some)
  exact List.find?_eq_none.1 none r mem controlled

/-- **What one pass does to the services of its source**, the unidentified one included. -/
theorem OnAdapter.atMostOne (keeps : p.team.KeepsAdapters api stock uid p.namespace_)
    (identified : ∀ u, p.source.metadata.uid = some u → u = uid)
    (h : AtMostOne stock uid p.namespace_ w)
    (pass : p.OnAdapter (stock.sparing uid p.namespace_) w w') :
    AtMostOne stock uid p.namespace_ w' := by
  cases pass with
  | untouched spared => exact h.moved spared
  | @asked uri plan w₁ w₂ _ sink unowned planned left =>
    obtain ⟨owner, placed, labelled, -⟩ := Receiver.plan_for planned
    have ours : plan.owner.uid = uid := identified _ owner
    have here : plan.namespace_ = p.namespace_ := by
      rw [namespace_, Source.namespaceOrEmpty, Cluster.Metadata.namespaceOrEmpty, placed]
      rfl
    have before := h.moved (sink.drifts keeps.besides)
    have none := ofOwner_of_unowned keeps (ours ▸ owner) before unowned
    have stores := Receiver.stores_plan keeps.keeps plan w₂
    rw [← keeps.platform, here] at stores
    exact (AtMostOne.of_stores labelled none stores ours).moved left

/-- **The passes of one source**: its namespace and its `uid` stay what they are, if it has one.
Anything else in the source, the settings and the clock may change. -/
structure IsOf (team : Collaborators W) (uid namespace_ : String) (p : Pass W) : Prop where
  team : p.team = team
  placed : p.namespace_ = namespace_
  identified : ∀ u, p.source.metadata.uid = some u → u = uid

/-! ### Without an identifier -/

/-- Whether a call asks for a new adapter, by `Receiver.Platform.create`. -/
def Call.asksForAdapter : Call → Bool
  | createAdapter _ _ => true
  | _ => false

/-- What happens to a recorded world in which no adapter is asked for. -/
def unasked : Drift (W × List Call) := .fixing fun s => s.2.filter Call.asksForAdapter

theorem within_unasked {α : Type} {call : α → Call} (a : Act W α)
    (other : ∀ x, (call x).asksForAdapter = false) : (a.recorded call).Within unasked := fun s =>
  List.filter_cons_of_neg (by rw [other]; exact Bool.false_ne_true)

theorem recorded_besides (team : Collaborators W) : team.recorded.Besides unasked where
  sinks _ _ := within_unasked _ fun _ => rfl
  secrets _ _ := within_unasked _ fun _ => rfl
  notices _ := within_unasked _ fun _ => rfl
  counters _ := within_unasked _ fun _ => rfl
  provider.opens scope token := (within_unasked _ fun _ => rfl).bind fun _ => Act.within_pure _
  provider.clients opened := by
    obtain ⟨inner, -, rfl⟩ := team.exists_client opened
    exact ⟨fun _ => within_unasked _ fun _ => rfl, fun _ => within_unasked _ fun _ => rfl,
      fun _ _ => within_unasked _ fun _ => rfl, fun _ => within_unasked _ fun _ => rfl⟩

/-- **For a source without an identifier, no adapter is asked for.** -/
theorem createAdapter_not_mem_calls (unidentified : p.source.metadata.uid = none) (w : W)
    (plan : Receiver.Plan) (answer : Except Receiver.Error Receiver) :
    .createAdapter plan answer ∉ p.calls w := by
  intro mem
  have besides : p.recorded.team.Besides unasked := recorded_besides p.team
  have lists : ∀ namespace_, (p.recorded.team.receivers.list namespace_).Within unasked :=
    fun _ => within_unasked _ fun _ => rfl
  have none : (p.calls w).filter Call.asksForAdapter = [] :=
    within_converge_of_unidentified besides lists unidentified (w, [])
  exact List.filter_eq_nil_iff.1 none _ mem rfl

/-! ## Passes, one after the other -/

/-- **A source has one adapter.** No more than one service is ever created that names the source as
its owner, and none is asked for as long as the source has no identifier. -/
theorem Visits.one_adapter (keeps : team.KeepsAdapters api stock uid namespace_)
    {visits : List (Visit W)} {w₀ w : W}
    (run : Visits (stock.sparing uid namespace_) (fun _ => IsOf team uid namespace_) w₀ visits w)
    (fresh : stock.ofOwner uid w₀ = []) :
    (stock.ofOwner uid w).length ≤ 1 ∧
      ∀ v ∈ visits, v.pass.source.metadata.uid = none →
        ∀ plan answer, .createAdapter plan answer ∉ v.calls := by
  refine ⟨?_, fun v _ unidentified => createAdapter_not_mem_calls unidentified v.before⟩
  suffices AtMostOne stock uid namespace_ w from this.one
  induction run with
  | start => exact ⟨by rw [fresh]; exact Nat.zero_le 1, fun some => absurd fresh some⟩
  | @pass visits v run ours ih =>
    obtain ⟨rfl, rfl, identified⟩ := ours
    have lists : ∀ namespace_, (v.pass.team.receivers.list namespace_).Within
        (stock.sparing uid v.pass.namespace_) := by
      rw [keeps.platform]
      exact Receiver.within_list keeps.keeps
    exact (converge_onAdapter keeps.besides lists v.before).atMostOne keeps identified ih
  | meanwhile run spared ih => exact ih.moved spared

end Pass

/-! ## A cluster that loses answers -/

/-- A cluster with services, which may lose an answer. -/
structure Lossy where
  services : List { service : Json // service.isKeyed = true }
  /-- Whether the next service that is stored is kept secret. -/
  losing : Bool

namespace Lossy

open Cluster.Memory (nameFor withName)

/-- The services that are there. -/
def stored (w : Lossy) : List Json := w.services.map Subtype.val

/-- The services of the cluster, which are those that were ever created. -/
def stock : Stock Lossy := ⟨fun _ => stored, stored⟩

/-- A service as it is stored: under a name that the cluster chooses. -/
def named (object : Json) (w : Lossy) : Json :=
  withName (nameFor (w.services.length + 1) object) object

/-- The cluster. -/
def api : Cluster.Api Lossy where
  send r w :=
    match r.content with
    | .read =>
      (⟨200, .json (.object [("items", .array (w.stored.filter (carries Receiver.label)))])⟩, w)
    | .create object =>
      if keyed : (named object w).isKeyed = true then
        (if w.losing then ⟨504, .text "no answer"⟩ else ⟨201, .json (named object w)⟩,
          ⟨⟨named object w, keyed⟩ :: w.services, false⟩)
      else (⟨400, .text "bad request"⟩, w)
    | .merge _ | .operations _ => (⟨405, .text "not allowed"⟩, w)

/-- What a pass works with in this cluster: all sinks are there, and no secret is. -/
def collaborators : Collaborators Lossy where
  secrets := ⟨fun _ _ => pure (.ok none)⟩
  hooks := ⟨fun _ _ => pure (.error (.denied 401 "unauthorized"))⟩
  receivers := .ofCluster api
  sinks := ⟨fun _ _ => pure (.ok "http://sink")⟩
  notices := ⟨fun _ => pure ()⟩
  count _ := pure ()

/-- A name changes no marks. -/
theorem getPath?_withName (name : String) {key : String} (ne : key ≠ "name") (keys : List String)
    (object : Json) : (withName name object).getPath? ("metadata" :: key :: keys) =
      object.getPath? ("metadata" :: key :: keys) := by
  rw [withName]
  cases found : object.get? "metadata" with
  | none => rfl
  | some metadata =>
    obtain ⟨fs, rfl, -⟩ := Receiver.exists_fields found
    have set : (Json.object fs).get? "metadata" = some metadata := found
    have named : ((Json.object fs).set "metadata" (metadata.set "name" (.string name))).get?
        "metadata" = some (metadata.set "name" (.string name)) := Json.lookup_insert_self _ _ _
    have other : (metadata.set "name" (.string name)).get? key = metadata.get? key := by
      cases metadata with
      | object ms => exact Json.lookup_insert_of_ne ne _ _
      | null | bool | number | string | array => rfl
    simp only [Json.getPath?, set, named, Option.bind_some, other]

/-- **The cluster keeps services**, whoever their owners are. -/
theorem keepsServices (uid namespace_ : String) :
    KeepsServices (stock.sparing uid namespace_) stock api where
  lists _ w := by
    refine .listed ((stock.sparing uid namespace_).refl w) ?_ rfl (fun service there labelled => ?_)
      ((stock.sparing uid namespace_).refl w)
    · have keyed : Json.areKeyed (w.stored.filter (carries Receiver.label)) = true := by
        refine Json.areKeyed_iff.2 fun service mem => ?_
        obtain ⟨s, -, rfl⟩ := List.mem_map.1 (List.mem_filter.1 mem).1
        exact s.2
      simpa [Json.fieldsKeyed, Json.isKeyed] using keyed
    · exact List.mem_filter.2 ⟨there, labelled⟩
  creates {namespace_' _ _} _ object w := by
    by_cases keyed : (named object w).isKeyed = true
    · simp only [api, dif_pos keyed]
      refine .stored ((stock.sparing uid namespace_).refl w) rfl (List.mem_cons_self ..) ?_ ?_
        ((stock.sparing uid namespace_).refl _)
      · intro l labelled
        have same := getPath?_withName (nameFor (w.services.length + 1) object)
          (show "labels" ≠ "name" by decide) [l.key] object
        show carries l (withName _ object) = true
        rwa [carries, same]
      · exact getPath?_withName _ (by decide) _ _
    · simp only [api, dif_neg keyed]
      exact .ignored ((stock.sparing uid namespace_).refl w)

theorem keepsAdapters (uid namespace_ : String) :
    collaborators.KeepsAdapters api stock uid namespace_ where
  platform := rfl
  keeps := keepsServices uid namespace_
  besides := {
    sinks _ _ := Act.within_pure _
    secrets _ _ := Act.within_pure _
    notices _ := Act.within_pure _
    counters _ := Act.within_pure _
    provider := {
      opens _ _ := Act.within_pure _
      clients opened := by cases opened } }

/-- A pass over a source in this cluster. -/
def passOver (s : Source) : Pass Lossy := ⟨collaborators, {}, ⟨0⟩, s⟩

/-- A pass that creates an adapter and is told that it could not. -/
def first : Pass.Visit Lossy := ⟨passOver InMemory.source, ⟨[], true⟩⟩

/-- The pass after it. -/
def second : Pass.Visit Lossy := ⟨passOver InMemory.source, first.after⟩

end Lossy

namespace Pass

/-- A second pass finds the adapter whose creation was reported to have failed. -/
theorem one_adapter_after_lost_answer :
    Visits (Lossy.stock.sparing "u-1" "team") (fun _ => IsOf Lossy.collaborators "u-1" "team")
        ⟨[], true⟩ [Lossy.second, Lossy.first] Lossy.second.after ∧
      Lossy.first.calls.countP Call.asksForAdapter = 1 ∧
      Lossy.first.outcome.result.toBool = false ∧
      Lossy.second.calls.countP Call.asksForAdapter = 0 ∧
      Lossy.stock.ofOwner "u-1" Lossy.second.after ≠ [] ∧
      (Lossy.stock.ofOwner "u-1" Lossy.second.after).length ≤ 1 ∧
        ∀ v ∈ [Lossy.second, Lossy.first], v.pass.source.metadata.uid = none →
          ∀ plan answer, .createAdapter plan answer ∉ v.calls := by
  have ours : IsOf Lossy.collaborators "u-1" "team" (Lossy.passOver InMemory.source) :=
    ⟨rfl, rfl, fun u identified => (Option.some.inj identified).symm⟩
  have run : Visits (Lossy.stock.sparing "u-1" "team")
      (fun _ => IsOf Lossy.collaborators "u-1" "team") ⟨[], true⟩ [Lossy.second, Lossy.first]
      Lossy.second.after :=
    .pass (.pass .start ours) ours
  exact ⟨run, by decide +kernel, by decide +kernel, by decide +kernel, by decide +kernel,
    run.one_adapter (Lossy.keepsAdapters "u-1" "team") rfl⟩

end Pass

end HookRelay

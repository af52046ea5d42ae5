import HookRelay.Proofs.Receiver.Owned
import HookRelay.Proofs.World.Drift

/-!
# A cluster that keeps services

A cluster stores the services that are asked for, under the marks that they were asked for with,
and lists all that carry the label. Any request may fail, and what was asked for may be stored
nevertheless. What adapters are taken from such a cluster, and what becomes of a plan, follows from
what is written into a service and read from it.

## Main definitions

* `Stock` : the services of a cluster, as they can be seen in a world
* `Stock.Holds`, `Stock.ofOwner` : what there is of an owner
* `Stock.sparing` : what may happen while the services of an owner are spared
* `KeepsServices` : the cluster keeps services

## Main statements

* `exists_of_listed` : an owner whose service is there finds it in the list
* `stores_plan` : a plan is stored, or nothing happens
-/

namespace HookRelay.Receiver

open Cluster (Api Response target?)
open Cluster.Memory (carries)
open Json (lookup)

variable {W : Type}

/-- The services of a cluster, Knative `Service`s, as they can be seen in a world. -/
structure Stock (W : Type) where
  /-- The services that are there, by their namespaces. -/
  services : String → W → List Json
  /-- The services that were ever created, as they were stored, the latest first. -/
  created : W → List Json

namespace Stock

variable (stock : Stock W) (uid namespace_ : String)

/-- A service of the owner is there, with the label that it is listed by. -/
def Holds (w : W) : Prop :=
  ∃ service ∈ stock.services namespace_ w, carries label service = true ∧ isOwned uid service = true

/-- The services of the owner that were ever created. -/
def ofOwner (w : W) : List Json := (stock.created w).filter (isOwned uid)

/-- What may happen while the services of an owner are spared: nobody else creates one, and nobody
deletes the one that is there, or takes its label or its owner away. -/
def sparing : Drift W where
  rel w w' := stock.ofOwner uid w' = stock.ofOwner uid w ∧
    (stock.Holds uid namespace_ w → stock.Holds uid namespace_ w')
  refl _ := ⟨rfl, id⟩
  trans first second := ⟨second.1.trans first.1, second.2 ∘ first.2⟩

end Stock

/-- How the services of a namespace are listed. -/
inductive Lists (d : Drift W) (services : W → List Json) (w : W) : Response → W → Prop where
  /-- The answer is of no use. -/
  | failed {r : Response} {w' : W} (moved : d.rel w w')
      (useless : ∀ objects, r.decode Cluster.readList ≠ .ok objects) : Lists d services w r w'
  /-- The answer holds all services that carry the label, as they were at one moment. -/
  | listed {status : Nat} {fs : List (String × Json)} {items : List Json} {w₁ w' : W}
      (before : d.rel w w₁) (keyed : Json.fieldsKeyed fs = true)
      (found : lookup "items" fs = some (.array items))
      (whole : ∀ service ∈ services w₁, carries label service = true → service ∈ items)
      (after : d.rel w₁ w') : Lists d services w ⟨status, .json (.object fs)⟩ w'

/-- What becomes of a service that is asked for, whatever is answered. -/
inductive Stores (d : Drift W) (stock : Stock W) (namespace_ : String) (object : Json) (w : W) :
    W → Prop where
  | ignored {w' : W} (moved : d.rel w w') : Stores d stock namespace_ object w w'
  /-- It is stored, with all its labels and owners. -/
  | stored {service : Json} {w₁ w₂ w' : W} (before : d.rel w w₁)
      (created : stock.created w₂ = service :: stock.created w₁)
      (there : service ∈ stock.services namespace_ w₂)
      (labelled : ∀ l, carries l object = true → carries l service = true)
      (owned : service.getPath? ["metadata", "ownerReferences"] =
        object.getPath? ["metadata", "ownerReferences"])
      (after : d.rel w₂ w') : Stores d stock namespace_ object w w'

/-- **A cluster keeps services.** Nothing that it is asked for leads beyond a drift, but for the
services that are stored. -/
structure KeepsServices (d : Drift W) (stock : Stock W) (api : Api W) : Prop where
  lists : ∀ {namespace_ path query},
    target? (resource.path namespace_ ++ "?" ++ label.query) = some (path, query) →
      ∀ w, Lists d (stock.services namespace_) w (api.send ⟨path, query, .read⟩ w).1
        (api.send ⟨path, query, .read⟩ w).2
  creates : ∀ {namespace_ path query}, target? (resource.path namespace_) = some (path, query) →
    ∀ object w, Stores d stock namespace_ object w (api.send ⟨path, query, .create object⟩ w).2

/-! ## Adapters of the cluster -/

section Platform

variable {d : Drift W} {stock : Stock W} {api : Api W} (keeps : KeepsServices d stock api)
  {uid namespace_ : String}

theorem Lists.moved {services : W → List Json} {w w' : W} {r : Response}
    (h : Lists d services w r w') : d.rel w w' := by
  cases h with
  | failed moved useless => exact moved
  | listed before keyed found whole after => exact d.trans before after

/-- The answer of the cluster to a request for adapters. -/
theorem list_apply (api : Api W) (namespace_ : String) (w : W) :
    (Platform.ofCluster api).list namespace_ w =
      match target? (resource.path namespace_ ++ "?" ++ label.query) with
      | none => (.error (.ofCluster listSummary .illegalPath), w)
      | some (path, query) =>
        ((((api.send ⟨path, query, .read⟩ w).1.decode Cluster.readList).map
          (List.map ofObject)).mapError (Error.ofCluster listSummary),
          (api.send ⟨path, query, .read⟩ w).2) := by
  dsimp only [Platform.ofCluster, Api.list]
  rw [Act.bind_apply, Api.call]
  cases target? (resource.path namespace_ ++ "?" ++ label.query) with
  | none => rfl
  | some target =>
    obtain ⟨path, query⟩ := target
    dsimp only
    rw [Act.bind_apply]
    dsimp only [Act.pure_apply]
    cases (api.send ⟨path, query, .read⟩ w).1.decode Cluster.readList <;> rfl

include keeps

theorem within_list (namespace_ : String) :
    ((Platform.ofCluster api).list namespace_).Within d := by
  intro w
  rw [list_apply]
  cases written : target? (resource.path namespace_ ++ "?" ++ label.query) with
  | none => exact d.refl w
  | some target => exact (keeps.lists written w).moved

/-- **An owner whose service is there finds it in the list.** -/
theorem exists_of_listed {w w' : W} {receivers : List Receiver}
    (run : (Platform.ofCluster api).list namespace_ w = (.ok receivers, w')) :
    ∃ w₁, d.rel w w₁ ∧ d.rel w₁ w' ∧
      (stock.Holds uid namespace_ w₁ → ∃ r ∈ receivers, r.isControlledBy uid = true) := by
  rw [list_apply] at run
  cases written : target? (resource.path namespace_ ++ "?" ++ label.query) with
  | none =>
    rw [written] at run
    cases run
  | some target =>
    obtain ⟨path, query⟩ := target
    have lists := keeps.lists written w
    rw [written] at run
    rcases sent : api.send ⟨path, query, .read⟩ w with ⟨r, w''⟩
    simp only [sent] at run lists
    obtain ⟨answer, rfl⟩ := Prod.mk.inj run
    cases decoded : r.decode Cluster.readList with
    | error e =>
      rw [decoded] at answer
      cases answer
    | ok objects =>
      rw [decoded] at answer
      cases answer
      cases lists with
      | failed moved useless => exact absurd decoded (useless objects)
      | @listed status fs items w₁ _ before keyed found whole after =>
        refine ⟨w₁, before, after, fun holds => ?_⟩
        obtain ⟨service, there, labelled, owned⟩ := holds
        have read : Json.decode Cluster.readList (.object fs) = .ok objects := by
          rw [Response.decode] at decoded
          split at decoded
          · cases decoded
          · split at decoded
            · next read =>
              cases decoded
              exact read
            · cases decoded
        exact exists_isControlledBy keyed found read (whole service there labelled) owned

/-- **A plan is stored, or nothing happens**, whatever is answered. -/
theorem stores_plan (plan : Plan) (w : W) :
    Stores d stock plan.namespace_ plan.toJson w ((Platform.ofCluster api).create plan w).2 := by
  dsimp only [Platform.ofCluster, Api.create]
  rw [Act.bind_apply, Api.call]
  cases written : target? (resource.path plan.namespace_) with
  | none => exact .ignored (d.refl w)
  | some target =>
    obtain ⟨path, query⟩ := target
    have stores := keeps.creates written plan.toJson w
    dsimp only
    rw [Act.bind_apply]
    dsimp only [Act.pure_apply]
    cases (api.send ⟨path, query, .create plan.toJson⟩ w).1.decode Cluster.Object.read with
    | error e => exact stores
    | ok object => exact stores

end Platform

end HookRelay.Receiver

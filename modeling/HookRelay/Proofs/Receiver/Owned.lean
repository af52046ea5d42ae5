import HookRelay.Cluster.Memory
import HookRelay.Proofs.Json.Keyed
import HookRelay.Proofs.Receiver.Plan
import HookRelay.Receiver.Service

/-!
# The services that a source owns

A receive adapter is found again by two marks that its service carries: a label, by which services
are listed, and a reference to the source as the owner that manages it. Both are written when the
service is created, and both are what is looked at when services are read: whoever keeps a service
with its marks is given back an adapter that the source owns.

## Main definitions

* `isManagedBy`, `isOwned` : the mark of the owner, as it stands in a service

## Main statements

* `carries_toJson`, `isOwned_toJson` : the service of a plan carries both marks
* `isControlledBy_of_isOwned` : a service with the mark of the owner is read as an adapter of it
* `exists_isControlledBy` : so it is in a list of services
-/

namespace HookRelay.Receiver

open Cluster (Metadata Object)
open Cluster.Memory (carries)
open Json (Decoder lookup)

variable {uid : String}

/-- Whether an entry of `ownerReferences` names the owner of a `uid` as the one that manages the
object (`controller`). -/
def isManagedBy (uid : String) (reference : Json) : Bool :=
  reference.get? "controller" == some (.bool true) && reference.get? "uid" == some (.string uid)

/-- Whether a service names the owner of a `uid` as the one that manages it. -/
def isOwned (uid : String) (service : Json) : Bool :=
  match service.getPath? ["metadata", "ownerReferences"] with
  | some (.array references) => references.any (isManagedBy uid)
  | _ => false

/-! ## Writing -/

/-- **The service of a plan carries the label** by which services are listed. -/
theorem carries_toJson {plan : Plan} (labelled : plan.labels = labels) :
    carries label plan.toJson = true := by
  have found : plan.toJson.getPath? ["metadata", "labels", label.key] =
      plan.labelsJson.getPath? [label.key] := rfl
  rw [carries, found, Plan.labelsJson, labelled]
  decide

/-- **The service of a plan names its owner**, and no other. -/
theorem isOwned_toJson (plan : Plan) : isOwned uid plan.toJson = true ↔ plan.owner.uid = uid := by
  have references : plan.toJson.getPath? ["metadata", "ownerReferences"] =
      some (.array [plan.owner.toJson]) := rfl
  have controller : plan.owner.toJson.get? "controller" = some (.bool true) := rfl
  have named : plan.owner.toJson.get? "uid" = some (.string plan.owner.uid) := rfl
  rw [isOwned, references]
  simp [isManagedBy, controller, named]

/-! ## Reading -/

theorem sets_metadata : Object.form.Sets "metadata" Metadata.record.decode id where
  listed := ⟨_, List.mem_singleton_self _, rfl⟩
  own f mem named d s s' set := by
    cases List.mem_singleton.1 mem
    obtain ⟨v, read, rfl⟩ := Json.exists_of_map_eq_ok set
    exact read
  other f mem named := absurd (congrArg Json.Field.name (List.mem_singleton.1 mem)) named

theorem sets_ownerReferences : Metadata.record.Sets "ownerReferences"
    (.optional (.list Cluster.Owner.record.decode)) Metadata.owners where
  listed := by decide
  own f mem named d s s' set := by
    simp only [Metadata.record, List.mem_cons, List.not_mem_nil, or_false] at mem
    rcases mem with rfl | rfl | rfl | rfl | rfl | rfl | rfl | rfl | rfl | rfl | rfl | rfl | rfl |
      rfl | rfl
    all_goals first
      | exact absurd named (by decide)
      | obtain ⟨v, read, rfl⟩ := Json.exists_of_map_eq_ok set
        exact read
  other f mem named d s s' set := by
    simp only [Metadata.record, List.mem_cons, List.not_mem_nil, or_false] at mem
    rcases mem with rfl | rfl | rfl | rfl | rfl | rfl | rfl | rfl | rfl | rfl | rfl | rfl | rfl |
      rfl | rfl
    all_goals first
      | exact absurd rfl named
      | obtain ⟨v, -, rfl⟩ := Json.exists_of_map_eq_ok set
        rfl

theorem sets_controller :
    Cluster.Owner.record.Sets "controller" (.optional .flag) Cluster.Owner.controller where
  listed := by decide
  own f mem named d s s' set := by
    simp only [Cluster.Owner.record, List.mem_cons, List.not_mem_nil, or_false] at mem
    rcases mem with rfl | rfl | rfl | rfl | rfl | rfl
    all_goals first
      | exact absurd named (by decide)
      | obtain ⟨v, read, rfl⟩ := Json.exists_of_map_eq_ok set
        exact read
  other f mem named d s s' set := by
    simp only [Cluster.Owner.record, List.mem_cons, List.not_mem_nil, or_false] at mem
    rcases mem with rfl | rfl | rfl | rfl | rfl | rfl
    all_goals first
      | exact absurd rfl named
      | obtain ⟨v, -, rfl⟩ := Json.exists_of_map_eq_ok set
        rfl

theorem sets_uid : Cluster.Owner.record.Sets "uid"
    (fun d => (Decoder.optional .text d).map (·.getD "")) Cluster.Owner.uid where
  listed := by decide
  own f mem named d s s' set := by
    simp only [Cluster.Owner.record, List.mem_cons, List.not_mem_nil, or_false] at mem
    rcases mem with rfl | rfl | rfl | rfl | rfl | rfl
    all_goals first
      | exact absurd named (by decide)
      | obtain ⟨v, read, rfl⟩ := Json.exists_of_map_eq_ok set
        rw [read]
        rfl
  other f mem named d s s' set := by
    simp only [Cluster.Owner.record, List.mem_cons, List.not_mem_nil, or_false] at mem
    rcases mem with rfl | rfl | rfl | rfl | rfl | rfl
    all_goals first
      | exact absurd rfl named
      | obtain ⟨v, -, rfl⟩ := Json.exists_of_map_eq_ok set
        rfl

/-- A reference that names the manager is read as one. -/
theorem owner_of_isManagedBy {reference : Json} {owner : Cluster.Owner}
    (keyed : reference.isKeyed = true) (managed : isManagedBy uid reference = true)
    (h : Json.decode Cluster.Owner.record.decode reference = .ok owner) :
    owner = ⟨uid, some true⟩ := by
  rw [isManagedBy, Bool.and_eq_true, beq_iff_eq, beq_iff_eq] at managed
  cases reference with
  | object fs =>
    have controller := sets_controller.get_of_decode keyed h
    have named := sets_uid.get_of_decode keyed h
    rw [show lookup "controller" fs = some (.bool true) from managed.1] at controller
    rw [show lookup "uid" fs = some (.string uid) from managed.2] at named
    have controller : some true = owner.controller := Except.ok.inj controller
    have named : uid = owner.uid := Except.ok.inj named
    rw [controller, named]
  | null | bool | number | string | array => cases managed.1

theorem exists_fields {j value : Json} {key : String} (found : j.get? key = some value) :
    ∃ fs, j = .object fs ∧ lookup key fs = some value := by
  cases j with
  | object fs => exact ⟨fs, rfl, found⟩
  | null | bool | number | string | array => cases found

/-- Where the mark of the owner stands. -/
theorem exists_of_isOwned {service : Json} (owned : isOwned uid service = true) :
    ∃ fs ms references, service = .object fs ∧ lookup "metadata" fs = some (.object ms) ∧
      lookup "ownerReferences" ms = some (.array references) ∧
      ∃ reference ∈ references, isManagedBy uid reference = true := by
  rw [isOwned] at owned
  split at owned
  · next references found =>
    obtain ⟨metadata, atMetadata, found⟩ := Option.bind_eq_some_iff.1 found
    obtain ⟨value, atReferences, found⟩ := Option.bind_eq_some_iff.1 found
    cases found
    obtain ⟨fs, rfl, atMetadata⟩ := exists_fields atMetadata
    obtain ⟨ms, rfl, atReferences⟩ := exists_fields atReferences
    exact ⟨fs, ms, references, rfl, atMetadata, atReferences, List.any_eq_true.1 owned⟩
  · cases owned

/-- The metadata of an object are those that stand in it. -/
theorem metadata_of_read {fs ms : List (String × Json)} {o : Object}
    (keyed : Json.fieldsKeyed fs = true) (here : lookup "metadata" fs = some (.object ms))
    (h : Json.decode Object.read (.object fs) = .ok o) :
    Json.decode Metadata.record.decode (.object ms) = .ok o.metadata := by
  have read : Object.read (Json.object fs).toDocument = .ok o := h
  rw [Json.toDocument, Object.read] at read
  cases metadata : Object.form.decode (.object (Json.toFieldDocuments fs) none) with
  | error e =>
    rw [metadata] at read
    cases read
  | ok m =>
    rw [metadata] at read
    cases data : Decoder.value (.object (Json.toFieldDocuments fs) none) with
    | error e =>
      rw [data] at read
      cases read
    | ok j =>
      rw [data] at read
      cases read
      have field := sets_metadata.get_of_decode keyed metadata
      rw [here] at field
      exact field

/-- **A service with the mark of the owner is read as an adapter of the owner.** -/
theorem isControlledBy_of_isOwned {service : Json} {o : Object} (keyed : service.isKeyed = true)
    (owned : isOwned uid service = true) (h : Json.decode Object.read service = .ok o) :
    (ofObject o).isControlledBy uid = true := by
  obtain ⟨fs, ms, references, rfl, atMetadata, atReferences, reference, mem, managed⟩ :=
    exists_of_isOwned owned
  have keyedMetadata := Json.isKeyed_of_lookup keyed atMetadata
  have keyedReferences := Json.isKeyed_of_lookup keyedMetadata atReferences
  have field := sets_ownerReferences.get_of_decode keyedMetadata
    (metadata_of_read keyed atMetadata h)
  rw [atReferences] at field
  obtain ⟨owners, read, known⟩ := Json.exists_of_map_eq_ok
    (show (Json.decode (Decoder.list Cluster.Owner.record.decode) (.array references)).map some =
      .ok o.metadata.owners from field)
  -- each reference was read as an owner, and the one that manages the service as the manager
  obtain ⟨owner, there, owner_read⟩ := Json.exists_of_list read reference mem
  cases owner_of_isManagedBy (Json.areKeyed_iff.1 keyedReferences _ mem) managed owner_read
  rw [isControlledBy, List.contains_iff_mem]
  show uid ∈ o.metadata.controllers
  rw [Metadata.controllers, ← known]
  exact List.mem_map.2 ⟨⟨uid, some true⟩, List.mem_filter.2 ⟨there, rfl⟩, rfl⟩

theorem sets_items : Cluster.listForm.Sets "items"
    (fun d => (Decoder.optional (.list Object.read) d).map (·.getD [])) id where
  listed := by decide
  own f mem named d s s' set := by
    simp only [Cluster.listForm, List.mem_cons, List.not_mem_nil, or_false] at mem
    rcases mem with rfl | rfl
    · exact absurd named (by decide)
    · obtain ⟨v, read, rfl⟩ := Json.exists_of_map_eq_ok set
      rw [read]
      rfl
  other f mem named d s s' set := by
    simp only [Cluster.listForm, List.mem_cons, List.not_mem_nil, or_false] at mem
    rcases mem with rfl | rfl
    · obtain ⟨v, -, rfl⟩ := Json.exists_of_map_eq_ok set
      rfl
    · exact absurd rfl named

/-- **A list that holds a service with the mark of the owner** is read as one that holds an adapter
of the owner. -/
theorem exists_isControlledBy {fs : List (String × Json)} {services : List Json}
    {objects : List Object} (keyed : Json.fieldsKeyed fs = true)
    (here : lookup "items" fs = some (.array services))
    (h : Json.decode Cluster.readList (.object fs) = .ok objects) {service : Json}
    (mem : service ∈ services) (owned : isOwned uid service = true) :
    ∃ r ∈ objects.map ofObject, r.isControlledBy uid = true := by
  have form : Json.decode Cluster.listForm.decode (.object fs) = .ok objects := h
  have field := sets_items.get_of_decode keyed form
  rw [here] at field
  obtain ⟨items, present, rfl⟩ := Json.exists_of_map_eq_ok field
  obtain ⟨os, listed, rfl⟩ := Json.exists_of_map_eq_ok
    (show (Json.decode (Decoder.list Object.read) (.array services)).map some = .ok items
      from present)
  obtain ⟨o, there, read⟩ := Json.exists_of_list listed service mem
  have itemsKeyed := Json.isKeyed_of_lookup keyed here
  exact ⟨ofObject o, List.mem_map_of_mem there,
    isControlledBy_of_isOwned (Json.areKeyed_iff.1 itemsKeyed _ mem) owned read⟩

end HookRelay.Receiver

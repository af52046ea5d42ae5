import HookRelay.Proofs.Json.Ascending
import HookRelay.Proofs.Json.ReadBack
import HookRelay.Proofs.Source.Recorded

/-!
# The status of a source is replaced

A status is written by a merge patch, which changes only what it lists. Still the status that was
there before is replaced as a whole: the patch lists every field, absent ones as `null`, which takes
them out, and lists, which are not merged. So whatever stood in the object as its status, what is
read back is the status that was written, and nothing else of the source has changed.

## Main definitions

* `KeptAs`, `IsKept` : an object that the cluster keeps for a source
* `statusIn` : the status that is read from an object

## Main statements

* `Status.decode_merge` : a status that was merged into another value is read back
* `keptAs_tidy` : every tidy object is kept whose metadata and specification can be read
* `KeptAs.merge`, `KeptAs.ofJson_merge` : writing a status leaves an object that is kept, from which
  this status is read
* `fits_of_ofJson` : the numbers in a source that was read have 64 bits
-/

namespace HookRelay

open Json (Ascending Fits fieldsOrNone lookup pick)

/-! ## Conditions and attributes -/

theorem Condition.decode_toJson (c : Condition) : Json.decode record.decode c.toJson = .ok c := by
  obtain ⟨name, status, since, reason, message⟩ := c
  cases since <;> cases reason <;> cases message <;> rfl

theorem EventAttributes.decode_toJson (a : EventAttributes) :
    Json.decode record.decode a.toJson = .ok a := rfl

namespace Source

/-! ## The status -/

/-- The numbers in a status have 64 bits. -/
structure Status.Fits (st : Status) : Prop where
  generation : ∀ n, st.observedGeneration = some n → Json.Fits n
  webhookId : ∀ n, st.webhookId = some n → Json.Fits n

variable {object : Json} {md : Cluster.Metadata} {sp : Spec} {s : Source} {st : Status}

/-- No field of a status is written as an object, so that none is merged. -/
theorem Status.flat_fields (st : Status) : ∀ f ∈ st.fields, f.2.isObject = false := by
  intro f mem
  simp only [fields, toJson, fieldsOrNone, List.mem_cons, List.not_mem_nil, or_false] at mem
  obtain rfl | rfl | rfl | rfl | rfl := mem
  · rfl
  · rfl
  · show (numberOrNull st.observedGeneration).isObject = false
    cases st.observedGeneration <;> rfl
  · show (Json.ofText? st.sinkUri).isObject = false
    cases st.sinkUri <;> rfl
  · show (numberOrNull st.webhookId).isObject = false
    cases st.webhookId <;> rfl

theorem decode_numberOrNull {v : Option Int} (fits : ∀ n, v = some n → Json.Fits n) :
    Json.decode (.optional .int64) (numberOrNull v) = .ok v := by
  cases v with
  | none => rfl
  | some n =>
    show (Json.decode .int64 (.ofInt n)).map some = _
    rw [Json.decode_ofInt (fits n rfl)]
    rfl

/-- The fields that are present are enough to read a status. -/
theorem Status.decode_present (fits : st.Fits) :
    Json.decode record.decode (.object (st.fields.filter fun f => f.2 ≠ .null)) = .ok st := by
  have attributes := Json.decode_list_map EventAttributes.decode_toJson st.attributes
  have conditions := Json.decode_list_map Condition.decode_toJson st.conditions
  have generation := decode_numberOrNull fits.generation
  have webhookId := decode_numberOrNull fits.webhookId
  obtain ⟨g, u, n, cs, as⟩ := st
  -- an absent field is left at its default, and a present one is set
  cases g <;> cases u <;> cases n <;>
    simp_all [Json.decode, Json.toDocument, Json.toFieldDocuments, Status.fields, Status.toJson,
      fieldsOrNone, numberOrNull, Json.ofInt, Json.ofText?, record, Status.blank, Json.Field.may,
      Json.Record.decode, Json.Record.visit, Json.Record.firstMissing, Json.Decoder.optional,
      Json.Decoder.text, Except.map]

/-- A status that was merged into another value is read back. -/
theorem Status.decode_merge (fits : st.Fits) {old : Json}
    (ascending : Ascending (fieldsOrNone old)) :
    Json.decode record.decode (Json.merge old st.toJson) = .ok st := by
  have known : ∀ f ∈ record.fields, f.name ∈ st.fields.map Prod.fst :=
    show ∀ f ∈ record.fields, f.name ∈
      ["ceAttributes", "conditions", "observedGeneration", "sinkUri", "webhookID"] by decide
  have ordered : (st.fields.map Prod.fst).Pairwise (· < ·) :=
    List.pairwise_map.2 st.ascending_fields
  have picked := Json.pick_mergeFields st.ascending_fields st.flat_fields (fieldsOrNone old)
  show Json.decode record.decode (Json.merge old (.object st.fields)) = .ok st
  rw [Json.merge, ← record.decode_pick ordered known (ascending.mergeFields _), picked]
  exact Status.decode_present fits

/-! ## The object -/

/-- **An object that the cluster keeps for a source** of such metadata and specification. It may
hold anything else beside them, and anything as the status. -/
structure KeptAs (object : Json) (md : Cluster.Metadata) (sp : Spec) : Prop where
  fields : ∃ fs, object = .object fs ∧ Ascending fs
  status : Ascending (fieldsOrNone ((object.get? "status").getD .null))
  metadata : ∃ j, object.get? "metadata" = some j ∧
    Json.decode Cluster.Metadata.record.decode j = .ok md
  spec : ∃ j, object.get? "spec" = some j ∧ Json.decode Spec.record.decode j = .ok sp

/-- Every tidy object is kept that has metadata and a specification which can be read. -/
theorem keptAs_tidy {raw : List (String × Json)}
    (metadata : ∃ j, (Json.object raw).tidy.get? "metadata" = some j ∧
      Json.decode Cluster.Metadata.record.decode j = .ok md)
    (spec : ∃ j, (Json.object raw).tidy.get? "spec" = some j ∧
      Json.decode Spec.record.decode j = .ok sp) : KeptAs (Json.object raw).tidy md sp where
  fields := ⟨_, by rw [Json.tidy], Json.Ascending.tidyFields List.Pairwise.nil raw⟩
  status := by
    cases here : (Json.object raw).tidy.get? "status" with
    | none => exact List.Pairwise.nil
    | some status =>
      rw [Json.tidy] at here
      obtain none | ⟨j, tidied⟩ := Json.exists_tidy_of_mem (Json.mem_of_lookup here)
      · cases none
      · rw [show status = j.tidy from tidied]
        exact Json.ascending_tidy j
  metadata := metadata
  spec := spec

/-- An object that the cluster keeps for some source. -/
def IsKept (object : Json) : Prop := ∃ md sp, KeptAs object md sp

/-- The status that is read from an object. -/
def statusIn (object : Json) : Except Json.Mismatch (Option Status) :=
  match object.get? "status" with
  | none => .ok none
  | some j => Json.decode (.optional Status.record.decode) j

namespace KeptAs

variable (kept : KeptAs object md sp)
include kept

/-- A source can be read whose status can be. -/
theorem ofJson_of_statusIn {status : Option Status} (read : statusIn object = .ok status) :
    ofJson object = .ok ⟨md, sp, status⟩ := by
  obtain ⟨⟨fs, rfl, ascending⟩, -, ⟨mj, hasMetadata, metadata⟩, sj, hasSpec, spec⟩ := kept
  simp only [Json.get?] at hasMetadata hasSpec
  simp only [statusIn, Json.get?] at read
  have known : ∀ f ∈ record.fields, f.name ∈ ["metadata", "spec", "status"] := by decide
  have strict : record.lenient = false := rfl
  rw [ofJson, ← record.decode_pick (by decide) known ascending]
  -- the keys come in the order in which they are declared, and the status comes last
  cases here : lookup "status" fs with
  | none =>
    rw [here] at read
    cases read
    have picked : pick ["metadata", "spec", "status"] fs = [("metadata", mj), ("spec", sj)] := by
      simp [pick, hasMetadata, hasSpec, here]
    have visited : record.visit none (Json.toFieldDocuments [("metadata", mj), ("spec", sj)]) []
        record.blank = .ok (["spec", "metadata"], ⟨md, sp, none⟩) := by
      rw [Json.Record.visit_of_read strict rfl (by decide) metadata,
        Json.Record.visit_of_read strict rfl (by decide) spec]
      rfl
    rw [picked]
    exact Json.Record.decode_of_visit visited (by decide)
  | some j =>
    rw [here] at read
    have picked : pick ["metadata", "spec", "status"] fs =
        [("metadata", mj), ("spec", sj), ("status", j)] := by
      simp [pick, hasMetadata, hasSpec, here]
    have visited : record.visit none
        (Json.toFieldDocuments [("metadata", mj), ("spec", sj), ("status", j)]) [] record.blank =
          .ok (["status", "spec", "metadata"], ⟨md, sp, status⟩) := by
      rw [Json.Record.visit_of_read strict rfl (by decide) metadata,
        Json.Record.visit_of_read strict rfl (by decide) spec,
        Json.Record.visit_of_read strict rfl (by decide) read]
      rfl
    rw [picked]
    exact Json.Record.decode_of_visit visited (by decide)

/-- Writing a status leaves an object that is kept as before. -/
theorem merge (st : Status) : KeptAs (Json.merge object (statusPatch st)) md sp where
  fields := by
    obtain ⟨fs, rfl, ascending⟩ := kept.fields
    rw [statusPatch, Json.merge]
    exact ⟨_, rfl, ascending.mergeFields _⟩
  status := by
    rw [get?_merge_statusPatch]
    exact kept.status.mergeFields _
  metadata := by
    rw [get?_merge_statusPatch_of_ne (by decide)]
    exact kept.metadata
  spec := by
    rw [get?_merge_statusPatch_of_ne (by decide)]
    exact kept.spec

theorem statusIn_merge (fits : st.Fits) :
    statusIn (Json.merge object (statusPatch st)) = .ok (some st) := by
  have read := Status.decode_merge fits kept.status
  rw [statusIn, get?_merge_statusPatch]
  show (Json.decode Status.record.decode _).map some = _
  rw [read]
  rfl

/-- **A status that was written is read back**, whatever was there before, and all else is read as
before. -/
theorem ofJson_merge (fits : st.Fits) :
    ofJson (Json.merge object (statusPatch st)) = .ok ⟨md, sp, some st⟩ :=
  (kept.merge st).ofJson_of_statusIn (kept.statusIn_merge fits)

end KeptAs

/-! ## What can be read -/

theorem Status.fits_blank : Status.blank.Fits where
  generation _ := nofun
  webhookId _ := nofun

theorem Status.fits_of_decode {d : Json.Document} (h : record.decode d = .ok st) : st.Fits := by
  refine Json.Record.forall_of_decode (fun f mem d st st' set before => ?_) Status.fits_blank h
  simp only [record, List.mem_cons, List.not_mem_nil, or_false] at mem
  obtain rfl | rfl | rfl | rfl | rfl := mem <;>
    obtain ⟨v, read, rfl⟩ := Json.exists_of_map_eq_ok set
  · exact ⟨fun n => Json.fits_of_optional read, before.webhookId⟩
  · exact ⟨before.generation, before.webhookId⟩
  · exact ⟨before.generation, fun n => Json.fits_of_optional read⟩
  · exact ⟨before.generation, before.webhookId⟩
  · exact ⟨before.generation, before.webhookId⟩

/-- The numbers in a source have 64 bits. -/
structure Fits (s : Source) : Prop where
  generation : ∀ n, s.metadata.generation = some n → Json.Fits n
  status : ∀ st, s.status = some st → st.Fits

theorem Fits.statusOrBlank (fits : s.Fits) : s.statusOrBlank.Fits := by
  unfold Source.statusOrBlank
  cases present : s.status with
  | none => exact Status.fits_blank
  | some st => exact fits.status st present

theorem fits_generation_of_decode {d : Json.Document}
    (h : Cluster.Metadata.record.decode d = .ok md) {n : Int} (present : md.generation = some n) :
    Json.Fits n := by
  have start : ∀ n, Cluster.Metadata.blank.generation = some n → Json.Fits n := fun _ => nofun
  have fits : ∀ n, md.generation = some n → Json.Fits n := by
    refine Json.Record.forall_of_decode
      (P := fun md : Cluster.Metadata => ∀ n, md.generation = some n → Json.Fits n)
      (fun f mem d md md' set before => ?_) start h
    simp only [Cluster.Metadata.record, List.mem_cons, List.not_mem_nil, or_false] at mem
    -- only one of the fields has to do with the number
    obtain rfl | rfl | rfl | rfl | rfl | rfl | rfl | rfl | rfl | rfl | rfl | rfl | rfl | rfl | rfl
      := mem <;> obtain ⟨v, read, rfl⟩ := Json.exists_of_map_eq_ok set <;>
      first
      | exact before
      | exact fun n => Json.fits_of_optional read
  exact fits n present

/-- The numbers in a source that was read have 64 bits. -/
theorem fits_of_ofJson (h : ofJson object = .ok s) : s.Fits := by
  have start : Fits ⟨.blank, Spec.record.blank, none⟩ := ⟨fun _ => nofun, fun _ => nofun⟩
  refine Json.Record.forall_of_decode (fun f mem d s s' set before => ?_) start h
  simp only [record, List.mem_cons, List.not_mem_nil, or_false] at mem
  obtain rfl | rfl | rfl := mem <;> obtain ⟨v, read, rfl⟩ := Json.exists_of_map_eq_ok set
  · exact ⟨fun n => fits_generation_of_decode read, before.status⟩
  · exact ⟨before.generation, before.status⟩
  · refine ⟨before.generation, fun st present => ?_⟩
    subst present
    exact Status.fits_of_decode (Json.exists_of_optional read)

end Source

end HookRelay

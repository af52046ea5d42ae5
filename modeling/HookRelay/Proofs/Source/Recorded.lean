import HookRelay.Proofs.Json.Ascending
import HookRelay.Source.Stored

/-!
# The hook that a stored source records

The number of the hook stands in the status of a source as the cluster stores it. There it is read
back by the next look at the source, and there a status that is written puts its own.

## Main definitions

* `recordedId` : the number in a stored object
* `IsStored` : the form in which the cluster stores sources

## Main statements

* `webhookId_of_ofJson` : the number that a source is read with
* `get?_merge_statusPatch` : what stands in an object behind a status that was written
* `recordedId_merge` : the number behind a status that was written
-/

namespace HookRelay.Source

open Json (lookup)

/-- A whole number, if a value is one. -/
def wholeNumber? : Json → Option Int
  | .number (.whole n) => some n
  | _ => none

/-- The number of the hook in a stored status, its `webhookID`. -/
def recordedIn (status : Json) : Option Int := (status.get? "webhookID").bind wholeNumber?

/-- The number of the hook in a stored object. -/
def recordedId (object : Json) : Option Int := (object.get? "status").bind recordedIn

/-- The form in which the cluster stores sources: an object, whose status is one if it is there. -/
structure IsStored (object : Json) : Prop where
  isObject : object.isObject = true
  status : ∀ status, object.get? "status" = some status → status = .null ∨ status.isObject = true

/-! ## Reading the number -/

theorem sees_status :
    record.Sees "status" (.optional Status.record.decode) Source.status where
  strict := rfl
  listed := ⟨_, List.mem_cons_of_mem _ (List.mem_cons_of_mem _ (List.mem_cons_self ..)), rfl⟩
  own f mem named d s s' set := by
    simp only [record, List.mem_cons, List.not_mem_nil, or_false] at mem
    obtain rfl | rfl | rfl := mem
    · exact absurd named (by decide)
    · exact absurd named (by decide)
    · obtain ⟨v, read, rfl⟩ := Json.exists_of_map_eq_ok set
      exact read
  other f mem named d s s' set := by
    simp only [record, List.mem_cons, List.not_mem_nil, or_false] at mem
    obtain rfl | rfl | rfl := mem
    · obtain ⟨v, -, rfl⟩ := Json.exists_of_map_eq_ok set
      rfl
    · obtain ⟨v, -, rfl⟩ := Json.exists_of_map_eq_ok set
      rfl
    · exact absurd rfl named

theorem sees_webhookId :
    Status.record.Sees "webhookID" (.optional .int64) Status.webhookId where
  strict := rfl
  listed := ⟨_, List.mem_cons_of_mem _ (List.mem_cons_of_mem _ (List.mem_cons_self ..)), rfl⟩
  own f mem named d s s' set := by
    simp only [Status.record, List.mem_cons, List.not_mem_nil, or_false] at mem
    obtain rfl | rfl | rfl | rfl | rfl := mem
    · exact absurd named (by decide)
    · exact absurd named (by decide)
    · obtain ⟨v, read, rfl⟩ := Json.exists_of_map_eq_ok set
      exact read
    · exact absurd named (by decide)
    · exact absurd named (by decide)
  other f mem named d s s' set := by
    simp only [Status.record, List.mem_cons, List.not_mem_nil, or_false] at mem
    obtain rfl | rfl | rfl | rfl | rfl := mem
    · obtain ⟨v, -, rfl⟩ := Json.exists_of_map_eq_ok set
      rfl
    · obtain ⟨v, -, rfl⟩ := Json.exists_of_map_eq_ok set
      rfl
    · exact absurd rfl named
    · obtain ⟨v, -, rfl⟩ := Json.exists_of_map_eq_ok set
      rfl
    · obtain ⟨v, -, rfl⟩ := Json.exists_of_map_eq_ok set
      rfl

/-- A number that is read, or absent, is what stands there. -/
theorem wholeNumber?_of_optional {j : Json} {n : Option Int}
    (h : Json.decode (.optional .int64) j = .ok n) : wholeNumber? j = n := by
  cases j with
  | null => exact Except.ok.inj h
  | number m =>
    obtain ⟨v, read, rfl⟩ := Json.exists_of_map_eq_ok
      (show (Json.Decoder.int64 (.number m)).map some = .ok n from h)
    cases m with
    | whole m =>
      simp only [Json.Decoder.int64, Json.Decoder.whole] at read
      split at read
      · rw [← Except.ok.inj read]
        rfl
      · cases read
    | float bits => cases read
  | bool | string | array | object => cases h

theorem webhookId_of_status {gs : List (String × Json)} {st : Status}
    (h : Json.decode Status.record.decode (.object gs) = .ok st) :
    st.webhookId = recordedIn (.object gs) := by
  have field := Json.Record.get_of_decode sees_webhookId h
  rw [recordedIn, Json.get?]
  cases here : lookup "webhookID" gs with
  | none =>
    rw [here] at field
    exact field
  | some j =>
    rw [here] at field
    exact (wholeNumber?_of_optional field).symm

/-- **The number that a source is read with** is the one that stands in the object. -/
theorem webhookId_of_ofJson {object : Json} {s : Source} (stored : IsStored object)
    (h : ofJson object = .ok s) : s.statusOrBlank.webhookId = recordedId object := by
  have isObject := stored.isObject
  cases object with
  | object fs =>
    have field := Json.Record.get_of_decode sees_status h
    rw [recordedId, Json.get?]
    cases here : lookup "status" fs with
    | none =>
      rw [here] at field
      rw [statusOrBlank, field]
      rfl
    | some status =>
      rw [here] at field
      obtain rfl | isObject := stored.status status here
      · rw [statusOrBlank, ← Except.ok.inj field]
        rfl
      · cases status with
        | object gs =>
          obtain ⟨st, read, same⟩ := Json.exists_of_map_eq_ok
            (show (Json.decode Status.record.decode (.object gs)).map some = .ok s.status
              from field)
          rw [statusOrBlank, ← same]
          exact webhookId_of_status read
        | null | bool | number | string | array => cases isObject
  | null | bool | number | string | array => cases isObject

/-! ## Writing the number -/

/-- The fields that are written of a status. -/
def Status.fields (st : Status) : List (String × Json) := Json.fieldsOrNone st.toJson

theorem Status.ascending_fields (st : Status) : Json.Ascending st.fields := by
  have keys : (st.fields.map Prod.fst).Pairwise (· < ·) :=
    show ["ceAttributes", "conditions", "observedGeneration", "sinkUri", "webhookID"].Pairwise
      (· < ·) by decide
  exact List.pairwise_map.1 keys

/-- The status behind one that was written: what was there, with the new one merged into it. -/
theorem get?_merge_statusPatch (object : Json) (st : Status) :
    (Json.merge object (statusPatch st)).get? "status" =
      some (Json.merge ((object.get? "status").getD .null) st.toJson) := by
  have single : Json.Ascending [("status", st.toJson)] := List.pairwise_singleton ..
  rw [statusPatch, Json.merge]
  refine (Json.lookup_mergeFields single "status" (Json.fieldsOrNone object)).trans ?_
  cases object <;> rfl

theorem get?_merge_statusPatch_of_ne {key : String} (other : key ≠ "status") (object : Json)
    (st : Status) : (Json.merge object (statusPatch st)).get? key = object.get? key := by
  have unlisted : key ∉ [("status", st.toJson)].map Prod.fst := by simpa using other
  rw [statusPatch, Json.merge]
  refine (Json.lookup_mergeFields_of_not_mem _ (Json.fieldsOrNone object) unlisted).trans ?_
  cases object <;> rfl

theorem recordedIn_merge (status : Json) (st : Status) :
    recordedIn (Json.merge status st.toJson) = st.webhookId := by
  have written := Json.lookup_mergeFields st.ascending_fields "webhookID"
    (Json.fieldsOrNone status)
  rw [Status.toJson, Json.merge, recordedIn, Json.get?]
  refine (congrArg (Option.bind · wholeNumber?) written).trans ?_
  have listed : lookup "webhookID" st.fields = some (numberOrNull st.webhookId) := rfl
  rw [listed]
  cases st.webhookId with
  | none => rfl
  | some n => simp [numberOrNull, Json.ofInt, Json.merge, wholeNumber?]

/-- **The number behind a status that was written** is that of the status. -/
theorem recordedId_merge (object : Json) (st : Status) :
    recordedId (Json.merge object (statusPatch st)) = st.webhookId := by
  rw [recordedId, get?_merge_statusPatch]
  exact recordedIn_merge _ st

end HookRelay.Source

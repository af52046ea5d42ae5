import HookRelay.Json.Basic

/-!
# Merge patches

A merge patch is a value that describes a change of another value. An object changes the keys
that it lists: `null` takes a key out, any other value is merged into what stands there. A
patch that is no object replaces the value as a whole, arrays included.

Main statement: a key that the patch does not list stays as it was (`lookup_mergeFields_of_not_mem`).
-/

namespace HookRelay.Json

/-- The fields that a merge into a value begins with: those of an object, none otherwise. -/
def fieldsOrNone : Json → List (String × Json)
  | .object fs => fs
  | _ => []

mutual

/-- Applies a merge patch to a value. -/
def merge (target : Json) : Json → Json
  | .object patch => .object (mergeFields (fieldsOrNone target) patch)
  | patch => patch

/-- Applies the fields of a merge patch, one after the other. -/
def mergeFields (fields : List (String × Json)) : List (String × Json) → List (String × Json)
  | [] => fields
  | (k, .null) :: rest => mergeFields (erase k fields) rest
  | (k, v) :: rest => mergeFields (insert k (merge ((lookup k fields).getD .null) v) fields) rest

end

/-- Taking a key out leaves the others. -/
theorem lookup_erase_of_ne {key other : String} (ne : other ≠ key) (fs : List (String × Json)) :
    lookup other (erase key fs) = lookup other fs := by
  induction fs with
  | nil => rfl
  | cons f rest ih =>
    obtain ⟨k, v⟩ := f
    by_cases h : k = key
    · subst h
      simp only [erase, List.filter, bne_self_eq_false, lookup_cons, Ne.symm ne, if_false]
      exact ih
    · have hk : (k != key) = true := by simpa using h
      simp only [erase, List.filter, hk, lookup_cons]
      split
      · rfl
      · exact ih

/-- A key that was taken out is gone. -/
theorem lookup_erase_self (key : String) (fs : List (String × Json)) :
    lookup key (erase key fs) = none := by
  induction fs with
  | nil => rfl
  | cons f rest ih =>
    obtain ⟨k, v⟩ := f
    by_cases h : k = key
    · subst h
      simp only [erase, List.filter, bne_self_eq_false]
      exact ih
    · have hk : (k != key) = true := by simpa using h
      simp only [erase, List.filter, hk, lookup_cons, h, if_false]
      exact ih

/-- A key that the patch does not list stays as it was. -/
theorem lookup_mergeFields_of_not_mem {key : String} (patch fields : List (String × Json))
    (h : key ∉ patch.map Prod.fst) :
    lookup key (mergeFields fields patch) = lookup key fields := by
  induction patch generalizing fields with
  | nil => simp [mergeFields]
  | cons f rest ih =>
    obtain ⟨k, v⟩ := f
    simp only [List.map_cons, List.mem_cons, not_or] at h
    cases v <;> simp only [mergeFields] <;> rw [ih _ h.2] <;>
      first | exact lookup_erase_of_ne h.1 _ | exact lookup_insert_of_ne h.1 _ _

end HookRelay.Json

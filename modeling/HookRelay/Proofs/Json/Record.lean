import HookRelay.Json.Decode
import HookRelay.Json.Merge

/-!
# What reading a record yields

A record is read field by field, in the order of the document. What a getter yields in the end is
what the one field says that sets it, wherever that field stands, and the default if it does not
stand there.

## Main definitions

* `Record.Sets`, `Record.Sees` : a getter is set by one field of a record

## Main statements

* `Record.get_of_decode` : what a getter yields of a record that was read
-/

namespace HookRelay.Json

/-- A field that was read was set to what was read. -/
theorem exists_of_map_eq_ok {α β : Type} {answer : Except Mismatch α} {f : α → β} {b : β}
    (h : answer.map f = .ok b) : ∃ a, answer = .ok a ∧ f a = b := by
  cases answer with
  | error e => cases h
  | ok a => exact ⟨a, rfl, Except.ok.inj h⟩

namespace Record

variable {σ α : Type} {r : Record σ} {key : String} {read : Decoder α} {get : σ → α}

/-- A getter is set by the field of a key, and by no other. -/
structure Sets (r : Record σ) (key : String) (read : Decoder α) (get : σ → α) : Prop where
  listed : ∃ f ∈ r.fields, f.name = key
  own : ∀ f ∈ r.fields, f.name = key → ∀ d s s', f.set d s = .ok s' → read d = .ok (get s')
  other : ∀ f ∈ r.fields, f.name ≠ key → ∀ d s s', f.set d s = .ok s' → get s' = get s

/-- A getter is set by the field of a key, and by no other, in a record that refuses a field that
stands twice. -/
structure Sees (r : Record σ) (key : String) (read : Decoder α) (get : σ → α) : Prop
    extends Sets r key read get where
  strict : r.lenient = false

variable {fs : List (String × Json)} {seen seen' : List String} {s s' : σ}

/-- One step of reading the fields of a document. -/
theorem visit_cons (strict : r.lenient = false) {k : String} {v : Json}
    (h : r.visit none (toFieldDocuments ((k, v) :: fs)) seen s = .ok (seen', s')) :
    (∃ f s₁, r.fields.find? (fun f => f.name = k) = some f ∧ k ∉ seen ∧
      f.set v.toDocument s = .ok s₁ ∧
      r.visit none (toFieldDocuments fs) (k :: seen) s₁ = .ok (seen', s')) ∨
    (r.fields.find? (fun f => f.name = k) = none ∧
      r.visit none (toFieldDocuments fs) seen s = .ok (seen', s')) := by
  rw [toFieldDocuments, visit] at h
  cases found : r.fields.find? (fun f => f.name = k) with
  | none =>
    rw [found] at h
    refine .inr ⟨rfl, ?_⟩
    cases passed : Decoder.any v.toDocument with
    | error e =>
      rw [passed] at h
      cases h
    | ok u =>
      rw [passed] at h
      exact h
  | some f =>
    rw [found] at h
    simp only [strict, Bool.not_false, Bool.true_and] at h
    split at h
    · cases h
    · next new =>
      cases read : f.set v.toDocument s with
      | error e =>
        rw [read] at h
        cases h
      | ok s₁ =>
        rw [read] at h
        exact .inl ⟨f, s₁, rfl, by simpa using new, read, h⟩

/-- A field that was read once is not read again. -/
theorem get_of_visit_of_seen (sees : r.Sees key read get) (before : key ∈ seen)
    (h : r.visit none (toFieldDocuments fs) seen s = .ok (seen', s')) : get s' = get s := by
  induction fs generalizing seen s with
  | nil =>
    cases h
    rfl
  | cons field rest ih =>
    obtain ⟨k, v⟩ := field
    obtain ⟨f, s₁, found, new, set, h⟩ | ⟨unknown, h⟩ := visit_cons sees.strict h
    · -- a second field of the key would have been refused
      have named : f.name = k := by simpa using List.find?_some found
      have other : f.name ≠ key := by
        rintro rfl
        exact new (named ▸ before)
      rw [ih (List.mem_cons_of_mem k before) h]
      exact sees.other f (List.mem_of_find?_eq_some found) other _ _ _ set
    · exact ih before h

theorem get_of_visit (sees : r.Sees key read get)
    (h : r.visit none (toFieldDocuments fs) seen s = .ok (seen', s')) :
    match lookup key fs with
    | none => get s' = get s
    | some j => read j.toDocument = .ok (get s') := by
  induction fs generalizing seen s with
  | nil =>
    cases h
    rfl
  | cons field rest ih =>
    obtain ⟨k, v⟩ := field
    rw [lookup_cons]
    obtain ⟨f, s₁, found, new, set, h⟩ | ⟨unknown, h⟩ := visit_cons sees.strict h
    · have mem := List.mem_of_find?_eq_some found
      have named : f.name = k := by simpa using List.find?_some found
      by_cases here : k = key
      · rw [if_pos here]
        -- the first field of the key is the one that a look-up finds, and it is the only one
        have last := get_of_visit_of_seen sees (here ▸ List.mem_cons_self ..) h
        rw [last]
        exact sees.own f mem (named.trans here) _ _ _ set
      · rw [if_neg here]
        have same := sees.other f mem (named ▸ here) _ _ _ set
        rw [← same]
        exact ih h
    · have elsewhere : k ≠ key := by
        rintro rfl
        obtain ⟨f, mem, named⟩ := sees.listed
        exact List.find?_eq_none.1 unknown f mem (decide_eq_true named)
      rw [if_neg elsewhere]
      exact ih h

/-- **What a getter yields of a record that was read**: what its field says, or the default. -/
theorem get_of_decode (sees : r.Sees key read get)
    (h : Json.decode r.decode (.object fs) = .ok s) :
    match lookup key fs with
    | none => get s = get r.blank
    | some j => read j.toDocument = .ok (get s) := by
  rw [Json.decode, toDocument, decode] at h
  cases visited : r.visit none (toFieldDocuments fs) [] r.blank with
  | error e =>
    rw [visited] at h
    cases h
  | ok answer =>
    obtain ⟨seen, s'⟩ := answer
    rw [visited] at h
    dsimp only at h
    split at h
    · cases h
    · cases h
      exact get_of_visit sees visited

end Record

end HookRelay.Json

import HookRelay.Proofs.Json.Record

/-!
# Documents in which no key stands twice

A record that takes a field from its last place reads a document as any other one does, if no key
stands twice in it. What the cluster keeps has that form throughout, so that what is read of an
object is what a look-up finds there; and of a list, one object is read for each item.

## Main definitions

* `isKeyed` : no key stands twice, at any depth

## Main statements

* `Record.Sets.get_of_decode` : what a getter yields of such a document
* `exists_of_list` : a list is read item by item
-/

namespace HookRelay.Json

mutual

/-- Whether no key stands twice in a value, at any depth. -/
def isKeyed : Json → Bool
  | .array xs => areKeyed xs
  | .object fs => fieldsKeyed fs
  | _ => true

/-- Whether no key stands twice in any item. -/
def areKeyed : List Json → Bool
  | [] => true
  | x :: xs => isKeyed x && areKeyed xs

/-- Whether no key stands twice among fields, or in any of them. -/
def fieldsKeyed : List (String × Json) → Bool
  | [] => true
  | (k, v) :: rest => (lookup k rest).isNone && isKeyed v && fieldsKeyed rest

end

theorem areKeyed_iff {xs : List Json} : areKeyed xs = true ↔ ∀ x ∈ xs, x.isKeyed = true := by
  induction xs with
  | nil => simp [areKeyed]
  | cons x xs ih => simp [areKeyed, ih]

theorem isKeyed_of_lookup {fs : List (String × Json)} {key : String} {value : Json}
    (keyed : fieldsKeyed fs = true) (found : lookup key fs = some value) :
    value.isKeyed = true := by
  induction fs with
  | nil => cases found
  | cons f rest ih =>
    obtain ⟨k, v⟩ := f
    rw [fieldsKeyed, Bool.and_eq_true, Bool.and_eq_true] at keyed
    rw [lookup_cons] at found
    split at found
    · cases found
      exact keyed.1.2
    · exact ih keyed.2 found

/-! ## Records -/

namespace Record

variable {σ α : Type} {r : Record σ} {key : String} {read : Decoder α} {get : σ → α}
  {fs : List (String × Json)} {seen seen' : List String} {s s' : σ}

/-- One step of reading the fields of a document. -/
theorem visit_step {k : String} {v : Json}
    (h : r.visit none (toFieldDocuments ((k, v) :: fs)) seen s = .ok (seen', s')) :
    ∃ seen₁ s₁, r.visit none (toFieldDocuments fs) seen₁ s₁ = .ok (seen', s') ∧
      ((∃ f ∈ r.fields, f.name = k ∧ f.set v.toDocument s = .ok s₁) ∨
        (∀ f ∈ r.fields, f.name ≠ k) ∧ s₁ = s) := by
  rw [toFieldDocuments, visit] at h
  cases found : r.fields.find? (fun f => f.name = k) with
  | none =>
    rw [found] at h
    have unknown : ∀ f ∈ r.fields, f.name ≠ k := fun f mem =>
      of_decide_eq_false (Bool.not_eq_true _ ▸ List.find?_eq_none.1 found f mem)
    cases passed : Decoder.any v.toDocument with
    | error e =>
      rw [passed] at h
      cases h
    | ok u =>
      rw [passed] at h
      exact ⟨seen, s, h, .inr ⟨unknown, rfl⟩⟩
  | some f =>
    rw [found] at h
    dsimp only at h
    split at h
    · cases h
    · cases set : f.set v.toDocument s with
      | error e =>
        rw [set] at h
        cases h
      | ok s₁ =>
        rw [set] at h
        have named : f.name = k := by simpa using List.find?_some found
        exact ⟨k :: seen, s₁, h, .inl ⟨f, List.mem_of_find?_eq_some found, named, set⟩⟩

theorem Sets.get_of_visit (sets : r.Sets key read get) (keyed : fieldsKeyed fs = true)
    (h : r.visit none (toFieldDocuments fs) seen s = .ok (seen', s')) :
    match lookup key fs with
    | none => get s' = get s
    | some j => read j.toDocument = .ok (get s') := by
  induction fs generalizing seen s with
  | nil =>
    cases h
    rfl
  | cons field rest ih =>
    obtain ⟨k, v⟩ := field
    rw [fieldsKeyed, Bool.and_eq_true, Bool.and_eq_true] at keyed
    obtain ⟨seen₁, s₁, h, step⟩ := visit_step h
    have later := ih keyed.2 h
    rw [lookup_cons]
    by_cases here : k = key
    · -- the key does not stand in the rest, so that what is read here stays
      subst here
      rw [Option.isNone_iff_eq_none.1 keyed.1.1] at later
      rw [if_pos rfl]
      obtain ⟨f, mem, named, set⟩ | ⟨unknown, -⟩ := step
      · have own := sets.own f mem named _ _ _ set
        rwa [← later] at own
      · obtain ⟨f, mem, named⟩ := sets.listed
        exact absurd named (unknown f mem)
    · rw [if_neg here]
      have same : get s₁ = get s := by
        obtain ⟨f, mem, named, set⟩ | ⟨-, rfl⟩ := step
        · exact sets.other f mem (named ▸ here) _ _ _ set
        · rfl
      rwa [same] at later

/-- **What a getter yields of a record that was read** from a document in which no key stands
twice: what its field says, or the default. -/
theorem Sets.get_of_decode (sets : r.Sets key read get) (keyed : fieldsKeyed fs = true)
    (h : Json.decode r.decode (.object fs) = .ok s) :
    match lookup key fs with
    | none => get s = get r.blank
    | some j => read j.toDocument = .ok (get s) := by
  rw [Json.decode, toDocument, decode] at h
  cases visited : r.visit none (toFieldDocuments fs) [] r.blank with
  | error e =>
    rw [visited] at h
    cases h
  | ok answer =>
    obtain ⟨seen, s'⟩ := answer
    rw [visited] at h
    dsimp only at h
    split at h
    · cases h
    · cases h
      exact sets.get_of_visit keyed visited

end Record

/-! ## Lists -/

section Lists

variable {α : Type} {read : Decoder α}

theorem exists_of_items {xs : List Json} {acc as : List α}
    (h : Decoder.items read none (toDocuments xs) acc = .ok as) :
    (∀ a ∈ acc, a ∈ as) ∧ ∀ x ∈ xs, ∃ a ∈ as, Json.decode read x = .ok a := by
  induction xs generalizing acc with
  | nil =>
    cases h
    exact ⟨fun a mem => List.mem_reverse.2 mem, fun x none => absurd none List.not_mem_nil⟩
  | cons x xs ih =>
    rw [toDocuments, Decoder.items] at h
    cases head : read x.toDocument with
    | error e =>
      rw [head] at h
      cases h
    | ok a =>
      rw [head] at h
      obtain ⟨kept, each⟩ := ih h
      refine ⟨fun b mem => kept b (List.mem_cons_of_mem _ mem), List.forall_mem_cons.2 ⟨?_, each⟩⟩
      exact ⟨a, kept a (List.mem_cons_self ..), head⟩

/-- **A list is read item by item.** -/
theorem exists_of_list {xs : List Json} {as : List α}
    (h : Json.decode (Decoder.list read) (.array xs) = .ok as) :
    ∀ x ∈ xs, ∃ a ∈ as, Json.decode read x = .ok a :=
  (exists_of_items h).2

end Lists

end HookRelay.Json

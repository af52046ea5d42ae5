import HookRelay.Proofs.Json.Record

/-!
# Reading back what was written

Numbers of 64 bits and lists are read back as they were written, and what was read has the form that
reading it checked: whatever all fields of a record leave in place, records that are read have.

## Main definitions

* `Fits` : a number is one of 64 bits

## Main statements

* `decode_ofInt`, `decode_list_map` : numbers and lists are read back
* `Record.visit_of_read`, `Record.decode_of_visit` : a record is read field by field
* `Record.forall_of_decode` : what all fields of a record leave in place
-/

namespace HookRelay.Json

theorem refuse_ne_ok {α : Type} (expected : String) (d : Document) (a : α) :
    Decoder.refuse expected d ≠ .ok a := by
  rw [Decoder.refuse]
  cases Decoder.found d with
  | error e => nofun
  | ok found => nofun

/-! ## Numbers -/

/-- The number is a signed one of 64 bits. -/
def Fits (n : Int) : Prop := -9223372036854775808 ≤ n ∧ n ≤ 9223372036854775807

instance (n : Int) : Decidable (Fits n) := inferInstanceAs (Decidable (_ ∧ _))

theorem decode_ofInt {n : Int} (fits : Fits n) : Json.decode .int64 (.ofInt n) = .ok n := by
  have here : (-9223372036854775808 ≤ n && n ≤ 9223372036854775807) = true := by
    simpa [Fits] using fits
  exact if_pos here

theorem fits_of_int64 {d : Document} {n : Int} (h : Decoder.int64 d = .ok n) : Fits n := by
  unfold Decoder.int64 Decoder.whole at h
  split at h
  · split at h
    · next m here =>
      rw [← Except.ok.inj h]
      simpa [Fits] using here
    · cases h
  · exact absurd h (refuse_ne_ok _ _ n)

theorem exists_of_optional {α : Type} {read : Decoder α} {d : Document} {a : α}
    (h : Decoder.optional read d = .ok (some a)) : read d = .ok a := by
  unfold Decoder.optional at h
  split at h
  · cases h
  · obtain ⟨a, ok, same⟩ := exists_of_map_eq_ok h
    cases same
    exact ok

theorem fits_of_optional {d : Document} {v : Option Int} (h : Decoder.optional .int64 d = .ok v)
    {n : Int} (present : v = some n) : Fits n :=
  fits_of_int64 (exists_of_optional (present ▸ h))

/-! ## Lists -/

/-- A list is read back whose items are. -/
theorem decode_list_map {α : Type} {read : Decoder α} {write : α → Json}
    (back : ∀ a, Json.decode read (write a) = .ok a) (as : List α) :
    Json.decode (.list read) (.array (as.map write)) = .ok as := by
  have items (as before : List α) :
      Decoder.items read none (toDocuments (as.map write)) before = .ok (before.reverse ++ as) := by
    induction as generalizing before with
    | nil => simp [toDocuments, Decoder.items]
    | cons a as ih =>
      have head : read (write a).toDocument = .ok a := back a
      simp [toDocuments, Decoder.items, head, ih]
  exact items as []

/-! ## Records -/

namespace Record

variable {σ : Type} {r : Record σ} {P : σ → Prop} {s s' : σ} {stop : Option Stop}

/-- A field that the record knows is set to what is read. -/
theorem visit_of_read (strict : r.lenient = false) {α : Type} {read : Decoder α} {put : α → σ → σ}
    {key name : String} {presence : Presence} {value : Json} {a : α} {seen : List String}
    (found : r.fields.find? (fun f => f.name = key) =
      some ⟨name, presence, fun d s => (read d).map (put · s)⟩)
    (new : key ∉ seen) (ok : Json.decode read value = .ok a) (rest : List (String × Json)) :
    r.visit none (toFieldDocuments ((key, value) :: rest)) seen s =
      r.visit none (toFieldDocuments rest) (key :: seen) (put a s) := by
  have first : seen.contains key = false := by simpa using new
  rw [Json.decode] at ok
  rw [toFieldDocuments, visit, found]
  simp only [strict, first, Bool.not_false, Bool.true_and, Bool.false_eq_true, if_false, ok,
    Except.map]

/-- A record whose fields can be read is read, if none is missing. -/
theorem decode_of_visit {fs : List (String × Json)} {seen : List String}
    (visited : r.visit none (toFieldDocuments fs) [] r.blank = .ok (seen, s))
    (complete : firstMissing seen r.fields = none) : Json.decode r.decode (.object fs) = .ok s := by
  rw [Json.decode, toDocument, decode, visited]
  dsimp only
  rw [complete]

section Invariant

variable (sets : ∀ f ∈ r.fields, ∀ d s s', f.set d s = .ok s' → P s → P s')
include sets

theorem forall_of_visit {fs : List (String × Document)} {seen seen' : List String}
    (h : r.visit stop fs seen s = .ok (seen', s')) (start : P s) : P s' := by
  induction fs generalizing seen s with
  | nil =>
    cases stop with
    | none =>
      cases h
      exact start
    | some stop => cases h
  | cons field rest ih =>
    obtain ⟨k, d⟩ := field
    rw [visit] at h
    split at h
    · next f found =>
      split at h
      · cases h
      · split at h
        · next s₁ set =>
          exact ih h (sets f (List.mem_of_find?_eq_some found) d s s₁ set start)
        · cases h
    · split at h
      · exact ih h start
      · cases h

theorem forall_of_visitItems {total n : Nat} {fields : List (Field σ)} {ds : List Document}
    (among : ∀ f ∈ fields, f ∈ r.fields) (h : r.visitItems total stop fields ds n s = .ok s')
    (start : P s) : P s' := by
  induction fields generalizing ds n s with
  | nil =>
    cases ds with
    | nil =>
      cases stop with
      | none =>
        cases h
        exact start
      | some stop => cases h
    | cons d ds => cases h
  | cons f fields ih =>
    have rest : ∀ f ∈ fields, f ∈ r.fields := fun g mem => among g (List.mem_cons_of_mem _ mem)
    cases ds with
    | nil =>
      cases stop with
      | none =>
        rw [visitItems] at h
        split at h
        · exact ih rest h start
        · cases h
      | some stop => cases h
    | cons d ds =>
      rw [visitItems] at h
      split at h
      · next s₁ set => exact ih rest h (sets f (among f (List.mem_cons_self ..)) d s s₁ set start)
      · cases h

/-- **What all fields of a record leave in place** holds of every record that is read. -/
theorem forall_of_decode (blank : P r.blank) {d : Document} (h : r.decode d = .ok s) : P s := by
  unfold decode at h
  split at h
  · split at h
    · cases h
    · next seen s₁ visited =>
      split at h
      · cases h
      · cases h
        exact forall_of_visit sets visited blank
  · split at h
    · cases h
    · exact forall_of_visitItems sets (fun f mem => mem) h blank
  · exact absurd h (refuse_ne_ok _ _ s)

end Invariant

end Record

end HookRelay.Json

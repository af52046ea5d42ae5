import HookRelay.Proofs.Condition.Settled

/-!
# What judging leaves alone

Judging a condition writes that one and the condition of readiness. All conditions of any other
name stay as they are and in their order, down to their times, also where a list holds several of
one name or holds names that nobody declared. Completing a list adds a declared condition that is
missing, as unknown, and changes nothing else but what follows for readiness.

## Main definitions

* `named` : all conditions of a name
* `Set.Leaves` : the conditions of a name are as they were, or were missing

## Main statements

* `Set.named_mark_of_ne` : judging a condition leaves the others alone
* `Set.leaves_complete` : completing a list leaves alone what is there
-/

namespace HookRelay.Condition

variable {now : Time.Instant} {name other : String} {f : Finding} {cs cs' : List Condition}

/-- All conditions of a name, in their order. -/
def named (name : String) (cs : List Condition) : List Condition :=
  cs.filter fun c => c.name = name

theorem named_cons (c : Condition) (cs : List Condition) :
    named name (c :: cs) = if c.name = name then c :: named name cs else named name cs := by
  simp [named, List.filter_cons]

theorem named_eq_nil_iff : named name cs = [] ↔ ¬ cs.any (fun c => c.name = name) = true := by
  simp [named]

theorem named_write_of_ne (ne : other ≠ name) :
    named other (write now name f cs) = named other cs := by
  induction cs with
  | nil => simp [write, named, new, ne.symm]
  | cons c cs ih =>
    by_cases here : c.name = name
    · have apart : c.name ≠ other := fun e => ne (e.symm.trans here)
      rw [write, if_pos here, named_cons, named_cons, if_neg apart,
        if_neg (show (update now f c).name ≠ other from apart)]
    · rw [write, if_neg here, named_cons, named_cons, ih]

namespace Set

variable {s : Set}

/-- Inserting by rank leaves the conditions of a name in their order. -/
theorem named_insertRanked (c : Condition) (ds : List Condition) :
    named name (s.insertRanked c ds) = named name (c :: ds) := by
  induction ds with
  | nil => rfl
  | cons d ds ih =>
    rw [insertRanked]
    split
    · rfl
    · next later =>
      -- a condition only moves behind one of lower rank, which has another name
      have apart : ¬ (c.name = name ∧ d.name = name) := fun both =>
        later (Nat.le_of_eq (by rw [both.1, both.2]))
      rw [named_cons, ih, named_cons, named_cons, named_cons]
      grind

@[simp] theorem named_arrange : named name (s.arrange cs) = named name cs := by
  induction cs with
  | nil => rfl
  | cons c cs ih =>
    rw [arrange, List.foldr_cons, named_insertRanked, named_cons, named_cons]
    rw [← arrange, ih]

/-- **The conditions of a name are as they were**; only if there was none, and one is declared, it
was added as `Unknown`. -/
inductive Leaves (s : Set) (now : Time.Instant) (name : String) (cs cs' : List Condition) : Prop
  | same (same : named name cs' = named name cs)
  | added (declared : name ∈ s.names) (missing : named name cs = [])
      (unknown : named name cs' = [new now name ⟨unknown, none, none⟩])

theorem Leaves.congr {cs'' : List Condition} (h : s.Leaves now name cs cs')
    (same : named name cs'' = named name cs') : s.Leaves now name cs cs'' := by
  cases h with
  | same as => exact .same (same.trans as)
  | added declared missing unknown => exact .added declared missing (same.trans unknown)

/-- Adding conditions leaves those alone that are there. -/
theorem named_addMissing_of_ne_nil (names : List String) (here : named name cs ≠ []) :
    named name (addMissing now names cs) = named name cs := by
  induction names generalizing cs with
  | nil => rfl
  | cons n ns ih =>
    rw [addMissing]
    split
    · exact ih here
    · next missing =>
      have ne : n ≠ name := by
        rintro rfl
        exact here (named_eq_nil_iff.2 missing)
      have same : named name (cs ++ [new now n ⟨unknown, none, none⟩]) = named name cs := by
        simp [named, new, ne]
      rw [ih (by rwa [same]), same]

/-- Conditions are added under the given names only, and once under each. -/
theorem named_addMissing_of_nil (names : List String) (missing : named name cs = []) :
    named name (addMissing now names cs) =
      if name ∈ names then [new now name ⟨unknown, none, none⟩] else [] := by
  induction names generalizing cs with
  | nil => simpa [addMissing] using missing
  | cons n ns ih =>
    rw [addMissing]
    by_cases same : n = name
    · have added : named name (cs ++ [new now n ⟨unknown, none, none⟩]) =
          [new now name ⟨unknown, none, none⟩] := by
        rw [named, List.filter_append, ← named, missing]
        simp [new, same]
      rw [if_neg (same ▸ named_eq_nil_iff.1 missing)]
      rw [named_addMissing_of_ne_nil ns (by rw [added]; exact List.cons_ne_nil _ _), added]
      simp [same]
    · have still : ∀ ds, ds = cs ∨ ds = cs ++ [new now n ⟨unknown, none, none⟩] →
          named name ds = [] := by
        rintro ds (rfl | rfl)
        · exact missing
        · simpa [named, new, same] using missing
      rw [ih (still _ (by split <;> simp))]
      simp [Ne.symm same]

/-- **Completing a list leaves alone what is there.** -/
theorem leaves_complete (ne : name ≠ s.ready) : s.Leaves now name cs (s.complete now cs) := by
  have only : named name (s.complete now cs) = named name (addMissing now s.names cs) := by
    rw [complete, derive, named_write_of_ne ne, named_arrange]
  by_cases missing : named name cs = []
  · rw [named_addMissing_of_nil _ missing] at only
    by_cases declared : name ∈ s.names
    · rw [if_pos declared] at only
      exact .added declared missing only
    · rw [if_neg declared] at only
      exact .same (only.trans missing.symm)
  · exact .same (only.trans (named_addMissing_of_ne_nil _ missing))

/-- **Judging a condition leaves the others alone**, but for that of readiness. -/
theorem named_mark_of_ne (ne : other ≠ name) (notReady : other ≠ s.ready) :
    named other (s.mark now name f cs) = named other cs := by
  rw [mark]
  split
  · exact named_write_of_ne ne
  · rw [derive, named_write_of_ne notReady, named_write_of_ne ne]

end Set

end HookRelay.Condition

import HookRelay.Proofs.Condition.Readiness
import Mathlib.Data.List.Sort

/-!
# Judging the same again

A list of conditions is settled if nothing is missing in it, it is in order, and its condition of
readiness says all that follows from the others. Completing a list settles it, whatever stood in it
before, and judging a condition keeps it settled. In a settled list, completing it again and saying
about a condition what is said already change nothing at all, by whatever clock.

## Main definitions

* `findingOf` : what is said about the condition of a name that counts
* `Set.Settled` : nothing is missing, out of order or out of step

## Main statements

* `Set.settled_complete`, `Set.Settled.mark` : how lists become and stay settled
* `Set.Settled.complete_eq`, `Set.Settled.mark_eq` : what changes nothing
-/

namespace HookRelay.Condition

variable {now : Time.Instant} {name other : String} {f : Finding}
  {cs : List Condition}

/-- What a condition says. -/
def finding (c : Condition) : Finding := ⟨c.status, c.reason, c.message⟩

/-- What is said about the condition of a name that counts. -/
def findingOf (name : String) (cs : List Condition) : Option Finding :=
  (find? name cs).map finding

/-! ## Writing what is written already -/

/-- Writing what a condition says already leaves it as it is, its time included. -/
theorem update_finding (now : Time.Instant) (c : Condition) : update now c.finding c = c := by
  simp [update, finding]

theorem write_eq (said : findingOf name cs = some f) : write now name f cs = cs := by
  induction cs with
  | nil => cases said
  | cons c cs ih =>
    rw [findingOf, find?_cons] at said
    by_cases here : c.name = name
    · rw [if_pos here] at said
      rw [write, if_pos here, ← Option.some.inj said, update_finding]
    · rw [if_neg here] at said
      rw [write, if_neg here, ih said]

@[simp] theorem findingOf_write_self : findingOf name (write now name f cs) = some f := by
  induction cs with
  | nil => simp [findingOf, write, find?_cons, new, finding]
  | cons c cs ih =>
    by_cases here : c.name = name
    · simp [findingOf, write, here, find?_cons, update, finding]
    · rw [write, if_neg here, findingOf, find?_cons, if_neg here]
      exact ih

theorem findingOf_write_of_ne (ne : other ≠ name) :
    findingOf other (write now name f cs) = findingOf other cs := by
  rw [findingOf, find?_write_of_ne ne, findingOf]

/-- A condition that is there is written where it stands. -/
theorem map_name_write (here : (findingOf name cs).isSome) :
    (write now name f cs).map Condition.name = cs.map Condition.name := by
  induction cs with
  | nil => cases here
  | cons c cs ih =>
    rw [findingOf, find?_cons] at here
    by_cases first : c.name = name
    · rw [write, if_pos first]
      rfl
    · rw [if_neg first] at here
      rw [write, if_neg first, List.map_cons, List.map_cons, ih here]

theorem isSome_findingOf_write (here : (findingOf other cs).isSome) :
    (findingOf other (write now name f cs)).isSome := by
  by_cases same : other = name
  · rw [same, findingOf_write_self]
    rfl
  · rwa [findingOf_write_of_ne same]

namespace Set

variable {s : Set}

/-! ## Missing conditions -/

theorem isSome_addMissing (names : List String) (here : (findingOf name cs).isSome) :
    (findingOf name (addMissing now names cs)).isSome := by
  obtain ⟨c, found⟩ := Option.isSome_iff_exists.1 (Option.isSome_map.symm.trans here)
  rw [findingOf, find?_addMissing_of_some names found]
  rfl

theorem any_name_iff : cs.any (fun c => c.name = name) = true ↔ (findingOf name cs).isSome := by
  rw [findingOf, Option.isSome_map, find?, List.find?_isSome, List.any_eq_true]

/-- Nothing that was to be added is missing. -/
theorem isSome_of_mem_addMissing {names : List String} (mem : name ∈ names) :
    (findingOf name (addMissing now names cs)).isSome := by
  induction names generalizing cs with
  | nil => cases mem
  | cons n ns ih =>
    rw [addMissing]
    obtain rfl | later := List.mem_cons.1 mem
    · refine isSome_addMissing ns ?_
      split
      · next here => exact any_name_iff.1 here
      · simp [findingOf, find?, new]
    · exact ih later

theorem addMissing_eq {names : List String} (full : ∀ n ∈ names, (findingOf n cs).isSome) :
    addMissing now names cs = cs := by
  induction names with
  | nil => rfl
  | cons n ns ih =>
    obtain ⟨here, rest⟩ := List.forall_mem_cons.1 full
    rw [addMissing, if_pos (any_name_iff.2 here), ih rest]

/-! ## Order -/

/-- A condition stands at the place of its name. -/
def Before (s : Set) (c d : Condition) : Prop := s.rank c.name ≤ s.rank d.name

instance : DecidableRel s.Before := fun c d => Nat.decLe (s.rank c.name) (s.rank d.name)

instance : Std.Total s.Before := ⟨fun c d => Nat.le_total (s.rank c.name) (s.rank d.name)⟩

instance : IsTrans Condition s.Before := ⟨fun _ _ _ => Nat.le_trans⟩

theorem insertRanked_eq (c : Condition) (ds : List Condition) :
    s.insertRanked c ds = ds.orderedInsert s.Before c := by
  induction ds with
  | nil => rfl
  | cons d ds ih => rw [insertRanked, List.orderedInsert, ih]; rfl

theorem arrange_eq (cs : List Condition) : s.arrange cs = cs.insertionSort s.Before := by
  induction cs with
  | nil => rfl
  | cons c cs ih =>
    rw [arrange, List.foldr_cons, insertRanked_eq, List.insertionSort_cons, ← ih, arrange]

/-- The order of a list is that of its names. -/
theorem pairwise_before_congr {cs' : List Condition}
    (names : cs'.map Condition.name = cs.map Condition.name) (ordered : cs.Pairwise s.Before) :
    cs'.Pairwise s.Before := by
  have byName : ∀ ds : List Condition,
      (ds.map Condition.name).Pairwise (s.rank · ≤ s.rank ·) ↔ ds.Pairwise s.Before :=
    fun _ => List.pairwise_map
  rw [← byName, names, byName]
  exact ordered

/-! ## Settled lists -/

/-- **A settled list**: nothing is missing, out of order or out of step. -/
structure Settled (s : Set) (cs : List Condition) : Prop where
  full : ∀ name ∈ s.names, (findingOf name cs).isSome
  ordered : cs.Pairwise s.Before
  derived : findingOf s.ready cs = some (s.verdict cs)

theorem ready_mem_names : s.ready ∈ s.names := List.mem_cons_self ..

/-- Readiness is derived from what it does not change. -/
theorem derived_derive (apart : s.Apart) :
    findingOf s.ready (s.derive now cs) = some (s.verdict (s.derive now cs)) := by
  have same : s.verdict (s.derive now cs) = s.verdict cs :=
    judge_congr fun m mem => find?_write_of_ne (apart m mem)
  rw [same, derive, findingOf_write_self]

/-- Deriving readiness settles a list that is full and in order. -/
theorem settled_derive (apart : s.Apart) (full : ∀ name ∈ s.names, (findingOf name cs).isSome)
    (ordered : cs.Pairwise s.Before) : s.Settled (s.derive now cs) where
  full name mem := isSome_findingOf_write (full name mem)
  ordered := pairwise_before_congr (map_name_write (full _ ready_mem_names)) ordered
  derived := derived_derive apart

/-- **Completing a list settles it**, whatever stood in it. -/
theorem settled_complete (apart : s.Apart) : s.Settled (s.complete now cs) := by
  refine settled_derive apart (fun name mem => ?_) ?_
  · rw [findingOf, find?_arrange, ← findingOf]
    exact isSome_of_mem_addMissing mem
  · rw [arrange_eq]
    exact List.pairwise_insertionSort s.Before _

namespace Settled

variable (settled : s.Settled cs)
include settled

/-- **Judging a condition keeps a list settled.** -/
theorem mark (apart : s.Apart) (mem : name ∈ s.names) (ne : name ≠ s.ready) :
    s.Settled (s.mark now name f cs) := by
  rw [Set.mark, if_neg ne]
  refine settled_derive apart (fun n there => isSome_findingOf_write (settled.full n there)) ?_
  exact pairwise_before_congr (map_name_write (settled.full name mem)) settled.ordered

theorem derive_eq : s.derive now cs = cs := write_eq settled.derived

/-- **Completing a settled list changes nothing.** -/
theorem complete_eq : s.complete now cs = cs := by
  rw [complete, addMissing_eq settled.full, arrange_eq, settled.ordered.insertionSort_eq,
    settled.derive_eq]

/-- **Saying again what is said about a condition changes nothing.** -/
theorem mark_eq (said : findingOf name cs = some f) : s.mark now name f cs = cs := by
  rw [Set.mark, write_eq said]
  split
  · rfl
  · exact settled.derive_eq

end Settled

theorem findingOf_mark_self (ne : name ≠ s.ready) :
    findingOf name (s.mark now name f cs) = some f := by
  rw [mark, if_neg ne, derive, findingOf_write_of_ne ne, findingOf_write_self]

theorem findingOf_mark_of_ne (ne : name ≠ s.ready) (notReady : other ≠ s.ready)
    (apart : other ≠ name) : findingOf other (s.mark now name f cs) = findingOf other cs := by
  rw [mark, if_neg ne, derive, findingOf_write_of_ne notReady, findingOf_write_of_ne apart]

end Set

end HookRelay.Condition

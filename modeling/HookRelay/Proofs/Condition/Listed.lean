import HookRelay.Proofs.Condition.Operations

/-!
# Completing a list without loss

What is completed may be any list: conditions in any order, several of one name, names that nobody
declared. Completing it adds one condition for each declared name that is missing and sorts the
list by name, readiness first, then the declared names in their order, then all other conditions.
The sort is stable and all names that are not declared have the same rank, so that the conditions of
one name keep their order, and so do all those that are not declared. Of what was there, only the
first condition of readiness is written.

A list that is sorted by the places of its names in a list without duplicates is, name by name,
what it holds under that name, with what it holds under other names behind. This brings the order
of the sort into the form in which it is stated.

## Main definitions

* `Set.listed` : conditions, by name in the declared order
* `Set.added` : the conditions that are missing
* `Set.Completion` : what completing makes of a list

## Main statements

* `Set.addMissing_names` : what is missing is added behind the list, once under each name
* `Set.arrange_eq_listed` : bringing a list into order lists it by name
* `Set.completion_complete` : completing a list brings it into order and loses nothing
-/

namespace HookRelay.Condition

variable {now : Time.Instant} {name : String} {cs ds : List Condition}

/-! ## Lists that are sorted by name -/

theorem named_append (cs ds : List Condition) :
    named name (cs ++ ds) = named name cs ++ named name ds :=
  List.filter_append ..

/-- If conditions of a name stand in front only, the list is split into these and the others. -/
theorem named_append_others (front : ds.Pairwise fun c d => d.name = name → c.name = name) :
    named name ds ++ ds.filter (fun c => c.name ≠ name) = ds := by
  induction ds with
  | nil => rfl
  | cons d ds ih =>
    obtain ⟨behind, front⟩ := List.pairwise_cons.1 front
    by_cases here : d.name = name
    · rw [named_cons, if_pos here, List.cons_append, List.filter_cons_of_neg (by simpa using here),
        ih front]
    · have others : ∀ c ∈ d :: ds, c.name ≠ name :=
        List.forall_mem_cons.2 ⟨here, fun c mem same => here (behind c mem same)⟩
      have none : named name (d :: ds) = [] :=
        List.filter_eq_nil_iff.2 fun c mem => by simpa using others c mem
      have all : (d :: ds).filter (fun c => c.name ≠ name) = d :: ds :=
        List.filter_eq_self.2 fun c mem => by simpa using others c mem
      rw [none, all, List.nil_append]

theorem named_others {other : String} (ne : other ≠ name) (ds : List Condition) :
    named other (ds.filter fun c => c.name ≠ name) = named other ds := by
  rw [named, named, List.filter_filter]
  exact List.filter_congr fun c _ => by grind

/-- **A list that is sorted by the places of its names** holds, name by name, what it holds under
each, and behind that the rest. -/
theorem flatMap_named_append {ns : List String} (distinct : ns.Nodup)
    (sorted : ds.Pairwise fun c d => ns.idxOf c.name ≤ ns.idxOf d.name) :
    ns.flatMap (named · ds) ++ ds.filter (fun c => c.name ∉ ns) = ds := by
  induction ns generalizing ds with
  | nil => simp
  | cons n ns ih =>
    obtain ⟨notMem, distinct⟩ := List.nodup_cons.1 distinct
    have front : ds.Pairwise fun c d => d.name = n → c.name = n := by
      refine sorted.imp fun {c d} le same => ?_
      rw [same, List.idxOf_cons_self, Nat.le_zero] at le
      by_contra ne
      rw [List.idxOf_cons_ne _ (Ne.symm ne)] at le
      exact Nat.succ_ne_zero _ le
    -- behind the conditions of the first name, the other names decide
    have behind : (ds.filter fun c => c.name ≠ n).Pairwise fun c d =>
        ns.idxOf c.name ≤ ns.idxOf d.name := by
      refine (sorted.filter _).imp_of_mem fun {c d} memC memD le => ?_
      have ne : ∀ e ∈ ds.filter (fun c => c.name ≠ n), n ≠ e.name := fun e mem same => by
        simpa [same] using (List.mem_filter.1 mem).2
      rw [List.idxOf_cons_ne _ (ne c memC), List.idxOf_cons_ne _ (ne d memD)] at le
      exact Nat.le_of_succ_le_succ le
    have same : ∀ m ∈ ns, named m (ds.filter fun c => c.name ≠ n) = named m ds :=
      fun m mem => named_others (ne_of_mem_of_not_mem mem notMem) ds
    have rest : (ds.filter fun c => c.name ≠ n).filter (fun c => c.name ∉ ns) =
        ds.filter fun c => c.name ∉ n :: ns := by
      rw [List.filter_filter]
      exact List.filter_congr fun c _ => by grind
    calc (n :: ns).flatMap (named · ds) ++ ds.filter (fun c => c.name ∉ n :: ns)
      _ = named n ds ++ (ns.flatMap (named · ds) ++ ds.filter fun c => c.name ∉ n :: ns) := by
        rw [List.flatMap_cons, List.append_assoc]
      _ = named n ds ++ ds.filter (fun c => c.name ≠ n) := by
        rw [← List.flatMap_congr same, ← rest, ih distinct behind]
      _ = ds := named_append_others front

namespace Set

variable {s : Set}

/-! ## What is missing -/

/-- One condition for each declared name that is missing, as `Unknown`: what `addMissing` adds. -/
def added (s : Set) (now : Time.Instant) (cs : List Condition) : List Condition :=
  (s.names.filter fun n => named n cs = []).map fun n => new now n ⟨unknown, none, none⟩

theorem addMissing_eq_append {ns : List String} (distinct : ns.Nodup) :
    addMissing now ns cs =
      cs ++ (ns.filter fun n => named n cs = []).map fun n => new now n ⟨unknown, none, none⟩ := by
  induction ns generalizing cs with
  | nil => simp [addMissing]
  | cons n ns ih =>
    obtain ⟨notMem, distinct⟩ := List.nodup_cons.1 distinct
    rw [addMissing, ih distinct]
    by_cases missing : named n cs = []
    · have same : ∀ m ∈ ns, named m (cs ++ [new now n ⟨unknown, none, none⟩]) = named m cs := by
        intro m mem
        have ne : n ≠ m := (ne_of_mem_of_not_mem mem notMem).symm
        rw [named_append, named_cons, if_neg (show (new now n _).name ≠ m from ne)]
        exact List.append_nil _
      rw [if_neg (named_eq_nil_iff.1 missing), List.filter_cons_of_pos (by simpa using missing),
        List.map_cons, List.append_assoc, List.singleton_append]
      congr 3
      exact List.filter_congr fun m mem => by rw [same m mem]
    · rw [if_pos (not_not.1 (mt named_eq_nil_iff.2 missing)),
        List.filter_cons_of_neg (by simpa using missing)]

/-- **What is missing is added behind the list**, once under each name. -/
theorem addMissing_names (distinct : s.names.Nodup) :
    addMissing now s.names cs = cs ++ s.added now cs :=
  addMissing_eq_append distinct

/-- Of each name, one condition is added if the name is declared and missing, and else none. -/
theorem named_added (distinct : s.names.Nodup) :
    named name (s.added now cs) =
      if name ∈ s.names ∧ named name cs = [] then [new now name ⟨unknown, none, none⟩] else [] := by
  have behind : named name (addMissing now s.names cs) =
      named name cs ++ named name (s.added now cs) := by
    rw [addMissing_names distinct, named_append]
  by_cases missing : named name cs = []
  · rw [named_addMissing_of_nil _ missing, missing, List.nil_append] at behind
    simp [← behind, missing]
  · rw [named_addMissing_of_ne_nil _ missing] at behind
    rw [if_neg fun both => missing both.2]
    exact List.self_eq_append_right.1 behind

/-! ## Order -/

/-- The conditions of a list that are not declared. -/
def foreign (s : Set) (cs : List Condition) : List Condition := cs.filter fun c => c.name ∉ s.names

/-- **The conditions of a list, by name**: those of readiness, then those of each declared name in
turn, then all others. -/
def listed (s : Set) (cs : List Condition) : List Condition :=
  s.names.flatMap (named · cs) ++ s.foreign cs

theorem listed_eq (cs : List Condition) :
    s.listed cs = named s.ready cs ++
      ((s.members.map Member.name).flatMap (named · cs) ++ s.foreign cs) :=
  List.append_assoc ..

/-- Where a condition of readiness is listed, one comes first. -/
theorem exists_first (present : (findingOf s.ready cs).isSome) :
    ∃ first rest, first.name = s.ready ∧ s.listed cs = first :: rest := by
  obtain ⟨first, found⟩ := Option.isSome_iff_exists.1 (Option.isSome_map.symm.trans present)
  have ready : first.name = s.ready := by simpa using List.find?_some found
  rw [find?_eq_head?, List.head?_eq_some_iff] at found
  obtain ⟨others, here⟩ := found
  rw [listed_eq, here, List.cons_append]
  exact ⟨first, _, ready, rfl⟩

theorem rank_eq_idxOf (name : String) : s.rank name = s.names.idxOf name := by
  have place : s.members.findIdx (fun m => m.name = name) =
      (s.members.map Member.name).idxOf name := by
    rw [List.idxOf, List.findIdx_map]
    rfl
  rw [rank, names, place]
  by_cases ready : name = s.ready
  · rw [if_pos ready, ready, List.idxOf_cons_self]
  · rw [if_neg ready, List.idxOf_cons_ne _ (Ne.symm ready)]

theorem perm_arrange (cs : List Condition) : (s.arrange cs).Perm cs := by
  rw [arrange_eq]
  exact List.perm_insertionSort s.Before cs

/-- Sorting is stable: conditions that all have the same rank keep their order. -/
theorem filter_arrange {p : Condition → Bool}
    (alike : ∀ c d, p c = true → p d = true → s.Before c d) :
    (s.arrange cs).filter p = cs.filter p := by
  have sorted : (cs.filter p).Pairwise s.Before :=
    List.pairwise_of_forall_mem_list fun c memC d memD =>
      alike c d (List.mem_filter.1 memC).2 (List.mem_filter.1 memD).2
  have kept : (cs.filter p).Sublist ((s.arrange cs).filter p) := by
    rw [arrange_eq]
    simpa [List.filter_filter] using
      (List.sublist_insertionSort sorted List.filter_sublist).filter p
  exact (kept.eq_of_length ((perm_arrange cs).filter p).length_eq.symm).symm

theorem foreign_arrange : s.foreign (s.arrange cs) = s.foreign cs := by
  refine filter_arrange fun c d foreignC foreignD => ?_
  rw [Before, rank_eq_idxOf, rank_eq_idxOf, List.idxOf_eq_length (of_decide_eq_true foreignC),
    List.idxOf_eq_length (of_decide_eq_true foreignD)]

/-- A list that is in order is listed by name. -/
theorem listed_eq_self (distinct : s.names.Nodup) (ordered : ds.Pairwise s.Before) :
    s.listed ds = ds := by
  refine flatMap_named_append distinct (ordered.imp fun {c d} before => ?_)
  rwa [Before, rank_eq_idxOf, rank_eq_idxOf] at before

/-- **Bringing a list into order lists it by name.** -/
theorem arrange_eq_listed (distinct : s.names.Nodup) (cs : List Condition) :
    s.arrange cs = s.listed cs := by
  have ordered : (s.arrange cs).Pairwise s.Before := by
    rw [arrange_eq]
    exact List.pairwise_insertionSort s.Before _
  rw [← listed_eq_self distinct ordered, listed, foreign_arrange]
  simp only [named_arrange]
  rfl

/-! ## Completing -/

/-- **What `Set.complete` makes of a list.** -/
structure Completion (s : Set) (now : Time.Instant) (before after : List Condition) : Prop where
  /-- The conditions stand by name, in the declared order. -/
  listed : s.listed after = after
  /-- Those that are not declared are as they were, in their order. -/
  foreign : s.foreign after = s.foreign before
  /-- The list holds what it held and what was missing, in the order just described; only the first
  condition, of readiness, is written, with what follows from the others. -/
  entries : ∃ first rest, first.name = s.ready ∧
    after = update now (s.conjunction before) first :: rest ∧
    first :: rest = s.listed (before ++ s.added now before) ∧
    (first :: rest).Perm (before ++ s.added now before) ∧
    ∀ name, named name (first :: rest) = named name before ++
      if name ∈ s.names ∧ named name before = [] then [new now name ⟨unknown, none, none⟩] else []
  /-- If readiness was missing, its only condition has the given time as well. -/
  stamped : named s.ready before = [] →
    ∃ c, named s.ready after = [c] ∧ c.since = some now.render
  /-- Completing the list again changes nothing, by whatever clock. -/
  again : ∀ later, s.complete later after = after

/-- What follows for readiness does not depend on what was added or moved. -/
theorem verdict_arrange (distinct : s.names.Nodup) :
    s.verdict (s.arrange (addMissing now s.names cs)) = s.conjunction cs := by
  rw [verdict_eq]
  refine conjunction_congr fun n mem => ?_
  have ne : n ≠ s.ready := ne_ready_of_contributing (apart_of_nodup distinct) mem
  have left : s.Leaves now n cs (s.complete now cs) := leaves_complete ne
  exact (left.congr (named_write_of_ne ne).symm).saying_eq

theorem foreign_added : s.foreign (s.added now cs) = [] := by
  refine List.filter_eq_nil_iff.2 fun c mem => ?_
  obtain ⟨n, missing, rfl⟩ := List.mem_map.1 mem
  have declared : n ∈ s.names := (List.mem_filter.1 missing).1
  simp [new, declared]

theorem foreign_cons_of_ready {c : Condition} (ready : c.name = s.ready) :
    s.foreign (c :: cs) = s.foreign cs :=
  List.filter_cons_of_neg (by simpa [ready] using ready_mem_names)

/-- A condition that was new already has the time at which it is written. -/
theorem since_update_new {f g : Finding} :
    (update now f (new now name g)).since = some now.render := by
  rw [update, new]
  exact ite_self _

/-- Completing a list writes the first condition of readiness, which comes first once the list is
full and in order. -/
theorem exists_complete_eq (distinct : s.names.Nodup) (now : Time.Instant) (cs : List Condition) :
    ∃ first rest, first.name = s.ready ∧ s.arrange (cs ++ s.added now cs) = first :: rest ∧
      s.complete now cs = update now (s.conjunction cs) first :: rest := by
  have present : (findingOf s.ready (addMissing now s.names cs)).isSome :=
    isSome_of_mem_addMissing ready_mem_names
  obtain ⟨first, rest, ready, listed⟩ := exists_first present
  rw [← arrange_eq_listed distinct] at listed
  refine ⟨first, rest, ready, addMissing_names distinct ▸ listed, ?_⟩
  rw [complete, derive, verdict_arrange distinct, listed, write, if_pos ready]

theorem foreign_complete (distinct : s.names.Nodup) :
    s.foreign (s.complete now cs) = s.foreign cs := by
  obtain ⟨first, rest, ready, arranged, result⟩ := exists_complete_eq distinct now cs
  have ready' : (update now (s.conjunction cs) first).name = s.ready := ready
  calc s.foreign (s.complete now cs)
    _ = s.foreign (first :: rest) := by
      rw [result, foreign_cons_of_ready ready', foreign_cons_of_ready ready]
    _ = s.foreign (cs ++ s.added now cs) := by rw [← arranged, foreign_arrange]
    _ = s.foreign cs := by
      rw [foreign, List.filter_append, ← foreign, ← foreign, foreign_added, List.append_nil]

theorem named_arrange_added (distinct : s.names.Nodup) (name : String) :
    named name (s.arrange (cs ++ s.added now cs)) = named name cs ++
      if name ∈ s.names ∧ named name cs = [] then [new now name ⟨unknown, none, none⟩]
      else [] := by
  rw [named_arrange, named_append, named_added distinct]

/-- **Completing a list brings it into order and loses nothing.** Each declared name that is missing
gets one unknown condition with the given time; all else is as it was and in its order, but for what
the first condition of readiness says. -/
theorem completion_complete (distinct : s.names.Nodup) (now : Time.Instant) (cs : List Condition) :
    s.Completion now cs (s.complete now cs) where
  listed := listed_eq_self distinct (settled_complete (apart_of_nodup distinct)).ordered
  foreign := foreign_complete distinct
  entries := by
    obtain ⟨first, rest, ready, arranged, result⟩ := exists_complete_eq distinct now cs
    refine ⟨first, rest, ready, result, ?_⟩
    rw [← arranged]
    exact ⟨arrange_eq_listed distinct _, perm_arrange _, named_arrange_added distinct⟩
  stamped missing := by
    obtain ⟨first, rest, ready, arranged, result⟩ := exists_complete_eq distinct now cs
    have ready' : (update now (s.conjunction cs) first).name = s.ready := ready
    -- the condition that was added is the only one of its name, hence the first of the list
    have only : named s.ready (first :: rest) = [new now s.ready ⟨unknown, none, none⟩] := by
      rw [← arranged, named_arrange_added distinct, missing, if_pos ⟨ready_mem_names, rfl⟩,
        List.nil_append]
    rw [named_cons, if_pos ready] at only
    obtain ⟨rfl, alone⟩ := List.cons.inj only
    rw [result, named_cons, if_pos ready', alone]
    exact ⟨_, rfl, since_update_new⟩
  again _ := (settled_complete (apart_of_nodup distinct)).complete_eq

/-- Both entries on sending stay, one behind the other; what is missing stands in its place, and the
colour, of which nothing is declared, at the end. -/
theorem completion_unkempt :
    parcel.names.Nodup ∧ parcel.Completion ⟨5⟩ unkempt (parcel.complete ⟨5⟩ unkempt) ∧
    parcel.complete ⟨5⟩ unkempt = [
      ⟨"Ready", unknown, some "1970-01-01T00:00:05Z", none, none⟩,
      ⟨"Packed", unknown, some "1970-01-01T00:00:05Z", none, none⟩,
      ⟨"Weighed", unknown, some "1970-01-01T00:00:05Z", none, none⟩,
      ⟨"Sent", "Soon", none, some "Waiting", none⟩,
      ⟨"Sent", fails, none, some "Lost", none⟩,
      ⟨"Colour", "Red", none, none, none⟩] := by
  have distinct : parcel.names.Nodup := by decide
  exact ⟨distinct, completion_complete distinct ⟨5⟩ unkempt, by decide +kernel⟩

end Set

end HookRelay.Condition

import HookRelay.Proofs.Condition.Operations

/-!
# Conditions that advance

The time of a condition tells when its status changed last. Over several judgements at one time it
tells whether the status changed on the way: if it left and came back, the time has moved although
the status is the same.

Judging conditions to hold, one after another, only brings a list closer to being ready. No status
that was left on that way comes back, so that there a time moves exactly if the status is another
one in the end.

## Main definitions

* `Improves` : a status that stays, or gets closer to holding
* `Set.advance` : judges conditions to hold, one after another

## Main statements

* `Carried.trans`, `Carried.lapse` : what two changes make of a time
* `Set.improves_advance`, `Set.carried_advance` : what judging conditions to hold does
-/

namespace HookRelay.Condition

variable {now : Time.Instant} {name other : String} {f : Finding} {cs ds es : List Condition}

/-! ## Times over two changes -/

theorem statusOf_of_named {c : Condition} {rest : List Condition}
    (here : named name cs = c :: rest) : statusOf name cs = some c.status := by
  rw [statusOf, Set.find?_eq_head?, here]
  rfl

/-- Two changes keep a condition as one would, unless its status left and came back. -/
theorem Carried.trans (first : Carried now name cs ds) (second : Carried now name ds es)
    (direct : statusOf name es = statusOf name cs → statusOf name ds = statusOf name cs) :
    Carried now name cs es := by
  intro c rest here
  obtain ⟨c', between, stamped⟩ := first c rest here
  obtain ⟨c'', there, stamped'⟩ := second c' rest between
  rw [statusOf_of_named here, statusOf_of_named between, statusOf_of_named there,
    Option.some.injEq, Option.some.injEq] at direct
  refine ⟨c'', there, ?_⟩
  rw [Stamped] at stamped stamped' ⊢
  by_cases back : c''.status = c.status
  · have still : c'.status = c.status := direct back
    rw [if_pos back, stamped', if_pos (back.trans still.symm), stamped, if_pos still]
  · rw [if_neg back, stamped']
    by_cases late : c''.status = c'.status
    · rw [if_pos late, stamped, if_neg fun e => back (late.trans e)]
    · rw [if_neg late]

/-- A status that left and came back has the time at which it came back. -/
theorem Carried.lapse (first : Carried now name cs ds) (second : Carried now name ds es)
    (back : statusOf name es ≠ statusOf name ds) {c : Condition} {rest : List Condition}
    (here : named name cs = c :: rest) :
    ∃ c', named name es = c' :: rest ∧ c'.since = some now.render := by
  obtain ⟨c', between, -⟩ := first c rest here
  obtain ⟨c'', there, stamped⟩ := second c' rest between
  rw [statusOf_of_named between, statusOf_of_named there, ne_eq, Option.some.injEq] at back
  exact ⟨c'', there, stamped.trans (if_neg back)⟩

/-! ## Statuses that get closer to holding -/

/-- **A status that stays, or gets closer to holding**: from failing, over any other status. -/
def Improves (a b : String) : Prop := b = a ∨ b = holds ∨ a = fails

theorem improves_refl (a : String) : Improves a a := .inl rfl

theorem Improves.trans {a b c : String} (first : Improves a b) (second : Improves b c) :
    Improves a c := by
  obtain rfl | held | failed := first
  · exact second
  · obtain rfl | held' | failed := second
    · exact .inr (.inl held)
    · exact .inr (.inl held')
    · exact absurd (held.symm.trans failed) (by decide)
  · exact .inr (.inr failed)

/-- What got closer to holding does not come back. -/
theorem Improves.eq_of_back {a b : String} (first : Improves a b) (back : Improves b a) :
    b = a := by
  obtain same | held | failed := first
  · exact same
  · obtain same | held' | failed := back
    · exact same.symm
    · exact held.trans held'.symm
    · exact absurd (held.symm.trans failed) (by decide)
  · obtain same | held' | failed' := back
    · exact same.symm
    · exact absurd (failed.symm.trans held') (by decide)
    · exact failed'.trans failed.symm

/-- The condition of a name that counts is there still, and closer to holding. -/
def ImprovesAt (name : String) (cs ds : List Condition) : Prop :=
  ∀ a, statusOf name cs = some a → ∃ b, statusOf name ds = some b ∧ Improves a b

theorem ImprovesAt.of_eq (same : statusOf name ds = statusOf name cs) : ImprovesAt name cs ds :=
  fun a here => ⟨a, same.trans here, improves_refl a⟩

theorem ImprovesAt.trans (first : ImprovesAt name cs ds) (second : ImprovesAt name ds es) :
    ImprovesAt name cs es := by
  intro a here
  obtain ⟨b, between, up⟩ := first a here
  obtain ⟨c, there, up'⟩ := second b between
  exact ⟨c, there, up.trans up'⟩

/-- Two changes for the better keep a condition as one would. -/
theorem Carried.trans_improves (first : Carried now name cs ds) (second : Carried now name ds es)
    (up : ImprovesAt name cs ds) (up' : ImprovesAt name ds es) : Carried now name cs es := by
  intro c rest here
  refine first.trans second (fun back => ?_) c rest here
  obtain ⟨b, between, rise⟩ := up _ (statusOf_of_named here)
  obtain ⟨d, there, rise'⟩ := up' b between
  rw [there, statusOf_of_named here, Option.some.injEq] at back
  rw [between, statusOf_of_named here, rise.eq_of_back (back ▸ rise')]

namespace Set

variable {s : Set}

/-! ## Judging that conditions hold -/

/-- Readiness gets closer to holding with the conditions that it follows from. -/
theorem improves_verdict
    (up : ∀ n ∈ s.members.map Member.name,
      statusOf n ds = statusOf n cs ∨ statusOf n ds = some holds) :
    Improves (s.verdict cs).status (s.verdict ds).status := by
  have status : (s.verdict ds).status ∈ [holds, fails, unknown] :=
    judge_status s.members none nofun
  have status' : (s.verdict cs).status ∈ [holds, fails, unknown] :=
    judge_status s.members none nofun
  have up_of : ∀ m ∈ s.members, statusOf m.name ds = statusOf m.name cs ∨
      statusOf m.name ds = some holds := fun m mem => up m.name (List.mem_map_of_mem mem)
  simp only [List.mem_cons, List.not_mem_nil, or_false] at status status'
  obtain held | failed | open_ := status
  · exact .inr (.inl held)
  · -- what fails now did not come to hold, and so failed before
    refine .inl (failed.trans (Eq.symm ?_))
    obtain ⟨m, mem, contributes, failing⟩ := verdict_fails_iff.1 failed
    refine verdict_fails_iff.2 ⟨m, mem, contributes, ?_⟩
    obtain same | held := up_of m mem
    · exact same.symm.trans failing
    · exact absurd (Option.some.inj (held.symm.trans failing)) (by decide)
  · obtain held | failed | open' := status'
    · -- what held before holds now
      have all : (s.verdict ds).status = holds := by
        refine verdict_holds_iff.2 fun m mem contributes => ?_
        obtain same | held' := up_of m mem
        · exact same.trans (verdict_holds_iff.1 held m mem contributes)
        · exact held'
      exact absurd (all.symm.trans open_) (by decide)
    · exact .inr (.inr failed)
    · exact .inl (open_.trans open'.symm)

theorem improvesAt_markTrue (apart : s.Apart) (inStep : s.InStep cs) (ne : name ≠ s.ready) :
    ImprovesAt other cs (s.markTrue now name cs) := by
  have self : statusOf name (s.markTrue now name cs) = some holds := statusOf_mark_self ne
  by_cases ready : other = s.ready
  · subst ready
    intro a here
    have after : s.InStep (s.markTrue now name cs) := inStep_mark apart ne
    refine ⟨_, after, ?_⟩
    rw [← Option.some.inj (inStep.symm.trans here)]
    refine improves_verdict fun n mem => ?_
    obtain ⟨m, listed, rfl⟩ := List.mem_map.1 mem
    by_cases judged : m.name = name
    · exact .inr (judged ▸ self)
    · exact .inl (statusOf_mark_of_ne ne (apart m listed) judged)
  · by_cases judged : other = name
    · rw [judged]
      exact fun a _ => ⟨holds, self, .inr (.inl rfl)⟩
    · exact .of_eq (statusOf_mark_of_ne ne ready judged)

/-- Judges conditions to hold, one after another, each by `Set.markTrue`. -/
def advance (s : Set) (now : Time.Instant) (names : List String) (cs : List Condition) :
    List Condition :=
  names.foldl (fun cs name => s.markTrue now name cs) cs

theorem inStep_advance (apart : s.Apart) (inStep : s.InStep cs) (names : List String)
    (away : ∀ n ∈ names, n ≠ s.ready) : s.InStep (s.advance now names cs) := by
  induction names generalizing cs with
  | nil => exact inStep
  | cons n ns ih =>
    obtain ⟨first, rest⟩ := List.forall_mem_cons.1 away
    exact ih (inStep_mark apart first) rest

/-- **Judging conditions to hold brings every condition closer to holding.** -/
theorem improves_advance (apart : s.Apart) (inStep : s.InStep cs) (names : List String)
    (away : ∀ n ∈ names, n ≠ s.ready) : ImprovesAt other cs (s.advance now names cs) := by
  induction names generalizing cs with
  | nil => exact .of_eq rfl
  | cons n ns ih =>
    obtain ⟨first, rest⟩ := List.forall_mem_cons.1 away
    exact (improvesAt_markTrue apart inStep first).trans (ih (inStep_mark apart first) rest)

/-- **Judging conditions to hold moves times as one change would.** -/
theorem carried_advance (apart : s.Apart) (inStep : s.InStep cs) (names : List String)
    (away : ∀ n ∈ names, n ≠ s.ready) : Carried now other cs (s.advance now names cs) := by
  induction names generalizing cs with
  | nil => exact .of_eq rfl
  | cons n ns ih =>
    obtain ⟨first, rest⟩ := List.forall_mem_cons.1 away
    have after : s.InStep (s.markTrue now n cs) := inStep_mark apart first
    exact (carried_mark first).trans_improves (ih after rest)
      (improvesAt_markTrue apart inStep first)
      (improves_advance apart after ns rest)

theorem statusOf_advance_of_not_mem {names : List String} (away : ∀ n ∈ names, n ≠ s.ready)
    (notReady : name ≠ s.ready) (mem : name ∉ names) :
    statusOf name (s.advance now names cs) = statusOf name cs := by
  induction names generalizing cs with
  | nil => rfl
  | cons n ns ih =>
    obtain ⟨first, rest⟩ := List.forall_mem_cons.1 away
    obtain ⟨ne, later⟩ := List.ne_and_not_mem_of_not_mem_cons mem
    exact (ih rest later).trans (statusOf_mark_of_ne first notReady ne)

theorem statusOf_advance_of_mem {names : List String} (away : ∀ n ∈ names, n ≠ s.ready)
    (mem : name ∈ names) : statusOf name (s.advance now names cs) = some holds := by
  induction names generalizing cs with
  | nil => cases mem
  | cons n ns ih =>
    obtain ⟨first, rest⟩ := List.forall_mem_cons.1 away
    by_cases later : name ∈ ns
    · exact ih rest later
    · obtain rfl : name = n := (List.mem_cons.1 mem).resolve_right later
      exact (statusOf_advance_of_not_mem rest first later).trans (statusOf_mark_self first)

end Set

end HookRelay.Condition

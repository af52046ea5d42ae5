import HookRelay.Proofs.Condition.Settled

/-!
# Conditions that account for themselves

A condition that holds needs no explanation, and one that fails needs one. A finding is grounded if
it goes by this, and so is every finding that is derived from grounded ones: readiness takes reason
and message over from the condition that it follows. A list is regular if it holds the declared
conditions and no others, is settled, and says nothing that is not grounded.

## Main definitions

* `Finding.Grounded` : nothing is explained that holds, and everything that fails is
* `Set.Regular` : the declared conditions in order, settled and grounded

## Main statements

* `Set.grounded_verdict` : readiness is grounded if all others are
* `Set.Regular.mark` : grounded findings keep a list regular
-/

namespace HookRelay.Condition

variable {now : Time.Instant} {name : String} {f : Finding} {cs : List Condition}

/-- **A finding that accounts for itself**: that a condition holds comes without reason and message,
and that one fails comes with both. -/
structure Finding.Grounded (f : Finding) : Prop where
  plain : f.status = holds → f.reason = none ∧ f.message = none
  explained : f.status = fails → f.reason.isSome ∧ f.message.isSome

/-- That nothing is known needs no explanation, but may have one. -/
theorem grounded_unknown (reason message : Option String) :
    (⟨unknown, reason, message⟩ : Finding).Grounded where
  plain h := absurd h (by decide : unknown ≠ holds)
  explained h := absurd h (by decide : unknown ≠ fails)

theorem grounded_holds : (⟨holds, none, none⟩ : Finding).Grounded where
  plain _ := ⟨rfl, rfl⟩
  explained h := absurd h (by decide : holds ≠ fails)

theorem grounded_fails (reason message : String) :
    (⟨fails, some reason, some message⟩ : Finding).Grounded where
  plain h := absurd h (by decide : fails ≠ holds)
  explained _ := ⟨rfl, rfl⟩

/-- All conditions of a list account for themselves. -/
def Grounded (cs : List Condition) : Prop := ∀ c ∈ cs, c.finding.Grounded

theorem grounded_write (said : f.Grounded) (grounded : Grounded cs) :
    Grounded (write now name f cs) := by
  induction cs with
  | nil => exact List.forall_mem_singleton.2 said
  | cons c cs ih =>
    obtain ⟨first, rest⟩ := List.forall_mem_cons.1 grounded
    rw [write]
    split
    · exact List.forall_mem_cons.2 ⟨said, rest⟩
    · exact List.forall_mem_cons.2 ⟨first, ih rest⟩

theorem Grounded.find? (grounded : Grounded cs) {c : Condition}
    (found : Condition.find? name cs = some c) : c.finding.Grounded :=
  grounded c (List.mem_of_find?_eq_some found)

namespace Set

variable {s : Set}

theorem grounded_addMissing (names : List String) (grounded : Grounded cs) :
    Grounded (addMissing now names cs) := by
  induction names generalizing cs with
  | nil => exact grounded
  | cons n ns ih =>
    rw [addMissing]
    split
    · exact ih grounded
    · refine ih (List.forall_mem_append.2 ⟨grounded, ?_⟩)
      exact List.forall_mem_singleton.2 (grounded_unknown none none)

theorem grounded_arrange (grounded : Grounded cs) : Grounded (s.arrange cs) := by
  rw [arrange_eq]
  exact fun c mem => grounded c ((List.mem_insertionSort s.Before).1 mem)

theorem grounded_judge (grounded : Grounded cs) (members : List Member) (pending : Option Finding)
    (waiting : ∀ f, pending = some f → f.Grounded) : (judge cs pending members).Grounded := by
  induction members generalizing pending with
  | nil =>
    cases pending with
    | none => exact grounded_holds
    | some f => exact waiting f rfl
  | cons m ms ih =>
    -- what is pending further on is something unknown
    have further : ∀ reason message,
        (judge cs (pending <|> some ⟨unknown, reason, message⟩) ms).Grounded := by
      intro reason message
      refine ih _ ?_
      cases pending with
      | none =>
        intro f first
        cases first
        exact grounded_unknown reason message
      | some f => exact waiting
    rw [judge]
    split
    · exact ih pending waiting
    · split
      · next c found =>
        split
        · next failing =>
          -- readiness fails for the reason for which the condition does
          have explained := (grounded.find? found).explained failing
          exact ⟨fun h => absurd h (by decide : fails ≠ holds), fun _ => explained⟩
        · split
          · exact ih pending waiting
          · exact further _ _
      · exact further _ _

/-- **Readiness accounts for itself** if all other conditions do. -/
theorem grounded_verdict (grounded : Grounded cs) : (s.verdict cs).Grounded :=
  grounded_judge grounded s.members none nofun

theorem grounded_derive (grounded : Grounded cs) : Grounded (s.derive now cs) :=
  grounded_write (grounded_verdict grounded) grounded

theorem grounded_complete (grounded : Grounded cs) : Grounded (s.complete now cs) :=
  grounded_derive (grounded_arrange (grounded_addMissing s.names grounded))

theorem grounded_mark (said : f.Grounded) (grounded : Grounded cs) :
    Grounded (s.mark now name f cs) := by
  have written : Grounded (write now name f cs) := grounded_write said grounded
  rw [mark]
  split
  · exact written
  · exact grounded_derive written

/-! ## Regular lists -/

/-- **A regular list**: the declared conditions in order, each of which accounts for itself, and a
condition of readiness that follows from the others. -/
structure Regular (s : Set) (cs : List Condition) : Prop where
  listed : cs.map Condition.name = s.names
  settled : s.Settled cs
  grounded : Grounded cs

/-- **Grounded findings keep a list regular.** -/
theorem Regular.mark (h : s.Regular cs) (apart : s.Apart) (mem : name ∈ s.names)
    (ne : name ≠ s.ready) (said : f.Grounded) : s.Regular (s.mark now name f cs) where
  listed := by
    have here : (findingOf s.ready (write now name f cs)).isSome :=
      isSome_findingOf_write (h.settled.full _ ready_mem_names)
    rw [Set.mark, if_neg ne, derive, map_name_write here, map_name_write (h.settled.full _ mem),
      h.listed]
  settled := h.settled.mark apart mem ne
  grounded := grounded_mark said h.grounded

end Set

end HookRelay.Condition

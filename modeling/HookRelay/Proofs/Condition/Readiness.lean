import HookRelay.Condition.Set
import HookRelay.Source.Basic

/-!
# Readiness follows the conditions

A list of conditions is in step if its condition of readiness says what follows from the others.
Completing a list brings it in step, and judging a condition keeps it so; hence a source is ready
exactly if all of its conditions hold, however its status came about.

## Main definitions

* `statusOf` : the status of the condition of a name that counts
* `Set.InStep` : readiness is what follows from the other conditions

## Main statements

* `Set.inStep_complete`, `Set.inStep_mark` : every change leaves a list in step
* `Set.verdict_holds_iff`, `Set.verdict_status` : when readiness follows, and what follows
-/

namespace HookRelay.Condition

variable {now : Time.Instant} {name other : String} {f : Finding} {cs : List Condition}

/-- The status of the condition of a name that counts. -/
def statusOf (name : String) (cs : List Condition) : Option String :=
  (find? name cs).map Condition.status

/-! ## Finding conditions in a changed list -/

theorem find?_cons (c : Condition) (cs : List Condition) :
    find? name (c :: cs) = if c.name = name then some c else find? name cs := by
  by_cases h : c.name = name
  · rw [if_pos h]
    exact List.find?_cons_of_pos (decide_eq_true h)
  · rw [if_neg h]
    exact List.find?_cons_of_neg (by simpa using h)

/-- What is written about a condition is what is said about it. -/
@[simp] theorem statusOf_write_self : statusOf name (write now name f cs) = some f.status := by
  induction cs with
  | nil => simp [statusOf, write, find?_cons, new]
  | cons c cs ih =>
    by_cases h : c.name = name
    · simp [statusOf, write, h, find?_cons, update]
    · rw [write, if_neg h, statusOf, find?_cons, if_neg h]
      exact ih

/-- Other conditions do not see what is written. -/
theorem find?_write_of_ne (ne : other ≠ name) :
    find? other (write now name f cs) = find? other cs := by
  induction cs with
  | nil => rw [write, find?_cons, if_neg (show (new now name f).name ≠ other from ne.symm)]
  | cons c cs ih =>
    by_cases h : c.name = name
    · have here : c.name ≠ other := fun e => ne (e.symm.trans h)
      rw [write, if_pos h, find?_cons, find?_cons, if_neg here,
        if_neg (show (update now f c).name ≠ other from here)]
    · rw [write, if_neg h, find?_cons, find?_cons, ih]

theorem statusOf_write_of_ne (ne : other ≠ name) :
    statusOf other (write now name f cs) = statusOf other cs := by
  rw [statusOf, find?_write_of_ne ne, statusOf]

namespace Set

variable {s : Set}

/-- Inserting by rank leaves conditions of one name in their order. -/
theorem find?_insertRanked (c : Condition) (ds : List Condition) :
    find? name (s.insertRanked c ds) = find? name (c :: ds) := by
  induction ds with
  | nil => rfl
  | cons d ds ih =>
    rw [insertRanked]
    split
    · rfl
    · next later =>
      -- a condition only moves behind one of lower rank, which has another name
      have ne : d.name ≠ c.name := fun e => later (Nat.le_of_eq (by rw [e]))
      rw [find?_cons, ih, find?_cons, find?_cons, find?_cons]
      by_cases h : d.name = name
      · rw [if_pos h, if_neg (fun e => ne (h.trans e.symm)), if_pos h]
      · rw [if_neg h, if_neg h]

/-- Bringing a list into order leaves the conditions that count. -/
@[simp] theorem find?_arrange : find? name (s.arrange cs) = find? name cs := by
  induction cs with
  | nil => rfl
  | cons c cs ih =>
    rw [arrange, List.foldr_cons, find?_insertRanked, find?_cons, find?_cons]
    rw [← arrange, ih]

/-- Conditions that are there count, whatever is added behind them. -/
theorem find?_addMissing_of_some {c : Condition} (names : List String)
    (here : find? name cs = some c) : find? name (addMissing now names cs) = some c := by
  induction names generalizing cs with
  | nil => exact here
  | cons n ns ih =>
    rw [addMissing]
    split
    · exact ih here
    · refine ih ?_
      rw [find?, List.find?_append, show cs.find? _ = some c from here]
      rfl

/-- A condition that was missing is unknown if it is among those added. -/
theorem statusOf_addMissing_of_none (names : List String) (missing : find? name cs = none) :
    statusOf name (addMissing now names cs) = none ∨
      statusOf name (addMissing now names cs) = some unknown := by
  induction names generalizing cs with
  | nil => exact .inl (by rw [addMissing, statusOf, missing]; rfl)
  | cons n ns ih =>
    rw [addMissing]
    split
    · exact ih missing
    · by_cases h : n = name
      · refine .inr ?_
        have added : find? name (cs ++ [new now n ⟨unknown, none, none⟩]) =
            some (new now n ⟨unknown, none, none⟩) := by
          rw [find?, List.find?_append, show cs.find? _ = none from missing, h]
          simp [new]
        rw [statusOf, find?_addMissing_of_some ns added]
        rfl
      · refine ih ?_
        rw [find?, List.find?_append, show cs.find? _ = none from missing]
        simp [new, h]

/-! ## What follows for readiness -/

theorem judge_holds_iff (members : List Member) (pending : Option Finding)
    (waiting : ∀ f, pending = some f → f.status ≠ holds) :
    (judge cs pending members).status = holds ↔
      pending = none ∧ ∀ m ∈ members, m.contributes = true → statusOf m.name cs = some holds := by
  -- what is pending grows along the list, so it is general in the induction
  induction members generalizing pending with
  | nil =>
    cases pending with
    | none => simp [judge]
    | some f => simp [judge, waiting f rfl]
  | cons m ms ih =>
    -- a condition that does not hold leaves something pending, and so spoils the verdict
    have spoiled : ∀ g : Finding, g.status = unknown →
        (judge cs (pending <|> some g) ms).status ≠ holds := by
      intro g isUnknown verdict
      have notHolds : g.status ≠ holds := by rw [isUnknown]; decide
      have still : ∀ f, (pending <|> some g) = some f → f.status ≠ holds := by
        cases pending with
        | none => intro f h; cases h; exact notHolds
        | some f => exact waiting
      obtain ⟨none, -⟩ := (ih _ still).1 verdict
      cases pending <;> cases none
    rw [judge, List.forall_mem_cons]
    cases contributes : m.contributes with
    | false => simpa using ih pending waiting
    | true =>
      simp only [Bool.not_true, Bool.false_eq_true, if_false, forall_const]
      cases found : find? m.name cs with
      | none =>
        have missing : statusOf m.name cs ≠ some holds := by simp [statusOf, found]
        simp only [missing, false_and, and_false, iff_false]
        exact spoiled _ rfl
      | some c =>
        have status : statusOf m.name cs = some c.status := by simp [statusOf, found]
        dsimp only
        rw [status, Option.some.injEq]
        -- failing ends the verdict, holding leaves it open, anything else is pending
        by_cases failing : c.status = fails
        · have notHolds : ¬ c.status = holds := by rw [failing]; decide
          simp only [if_pos failing, notHolds, false_and, and_false, iff_false]
          decide
        · by_cases holding : c.status = holds
          · rw [if_neg failing, if_pos holding, ih pending waiting]
            simp [holding]
          · simp only [if_neg failing, holding, false_and, and_false, iff_false]
            exact spoiled _ rfl

/-- **Readiness follows if all contributing conditions hold**, and only then. -/
theorem verdict_holds_iff :
    (s.verdict cs).status = holds ↔
      ∀ m ∈ s.members, m.contributes = true → statusOf m.name cs = some holds := by
  rw [verdict, judge_holds_iff s.members none nofun]
  simp

/-- What is pending further on is unknown as well. -/
theorem unknown_pending {pending : Option Finding}
    (waiting : ∀ f, pending = some f → f.status = unknown) {g : Finding} (late : g.status = unknown)
    (f : Finding) (first : (pending <|> some g) = some f) : f.status = unknown := by
  cases pending with
  | none => cases first; exact late
  | some f => exact waiting _ first

theorem judge_fails_iff (members : List Member) (pending : Option Finding)
    (waiting : ∀ f, pending = some f → f.status = unknown) :
    (judge cs pending members).status = fails ↔
      ∃ m ∈ members, m.contributes = true ∧ statusOf m.name cs = some fails := by
  induction members generalizing pending with
  | nil =>
    have notFails : (judge cs pending []).status ≠ fails := by
      cases pending with
      | none => exact (by decide : holds ≠ fails)
      | some f =>
        rw [judge, waiting f rfl]
        decide
    simpa using notFails
  | cons m ms ih =>
    rw [judge]
    simp only [List.mem_cons, exists_eq_or_imp]
    cases contributes : m.contributes with
    | false => simpa using ih pending waiting
    | true =>
      simp only [Bool.not_true, Bool.false_eq_true, if_false, true_and]
      cases found : find? m.name cs with
      | none =>
        have missing : statusOf m.name cs ≠ some fails := by simp [statusOf, found]
        simpa only [missing, false_or] using ih _ (unknown_pending waiting rfl)
      | some c =>
        have status : statusOf m.name cs = some c.status := by simp [statusOf, found]
        dsimp only
        rw [status, Option.some.injEq]
        by_cases failing : c.status = fails
        · rw [if_pos failing]
          exact iff_of_true rfl (.inl failing)
        · rw [if_neg failing, or_iff_right failing]
          split
          · exact ih pending waiting
          · exact ih _ (unknown_pending waiting rfl)

/-- Readiness fails if a contributing condition fails, and only then. -/
theorem verdict_fails_iff :
    (s.verdict cs).status = fails ↔
      ∃ m ∈ s.members, m.contributes = true ∧ statusOf m.name cs = some fails :=
  judge_fails_iff s.members none nofun

theorem judge_status (members : List Member) (pending : Option Finding)
    (waiting : ∀ f, pending = some f → f.status = unknown) :
    (judge cs pending members).status ∈ [holds, fails, unknown] := by
  induction members generalizing pending with
  | nil =>
    cases pending with
    | none => simp [judge]
    | some f => simp [judge, waiting f rfl]
  | cons m ms ih =>
    rw [judge]
    split
    · exact ih pending waiting
    · split
      · split
        · simp
        · split
          · exact ih pending waiting
          · exact ih _ (unknown_pending waiting rfl)
      · exact ih _ (unknown_pending waiting rfl)

/-- **What follows for readiness**: it fails if a contributing condition fails, is unknown if one
does not hold, and holds otherwise. -/
theorem verdict_status : (s.verdict cs).status =
    if ∃ m ∈ s.members, m.contributes = true ∧ statusOf m.name cs = some fails then fails
    else if ∃ m ∈ s.members, m.contributes = true ∧ statusOf m.name cs ≠ some holds then unknown
    else holds := by
  have status : (s.verdict cs).status ∈ [holds, fails, unknown] := judge_status s.members none nofun
  have spoiled : (∃ m ∈ s.members, m.contributes = true ∧ statusOf m.name cs ≠ some holds) ↔
      (s.verdict cs).status ≠ holds := by
    rw [ne_eq, verdict_holds_iff]
    simp only [Classical.not_forall, exists_prop]
  simp only [← verdict_fails_iff, spoiled]
  split
  · assumption
  · split
    · next notFails notHolds => simpa [notFails, notHolds] using status
    · next holds => exact Classical.not_not.1 holds

/-! ## Lists in step -/

/-- The condition of readiness says what follows from the others by `Set.verdict`. -/
def InStep (s : Set) (cs : List Condition) : Prop :=
  statusOf s.ready cs = some (s.verdict cs).status

theorem judge_congr {cs' : List Condition} {members : List Member} {pending : Option Finding}
    (same : ∀ m ∈ members, find? m.name cs' = find? m.name cs) :
    judge cs' pending members = judge cs pending members := by
  induction members generalizing pending with
  | nil => cases pending <;> rfl
  | cons m ms ih =>
    obtain ⟨here, rest⟩ := List.forall_mem_cons.1 same
    rw [judge, judge, here]
    simp only [ih rest]

/-- The condition of readiness is none of those that it follows from. -/
def Apart (s : Set) : Prop := ∀ m ∈ s.members, m.name ≠ s.ready

variable (apart : s.Apart)

theorem statusOf_derive_of_ne (ne : other ≠ s.ready) :
    statusOf other (s.derive now cs) = statusOf other cs :=
  statusOf_write_of_ne ne

include apart

theorem inStep_derive : s.InStep (s.derive now cs) := by
  rw [InStep, derive, statusOf_write_self, verdict, verdict]
  rw [judge_congr fun m mem => find?_write_of_ne (apart m mem)]

/-- Completing a list brings it in step. -/
theorem inStep_complete : s.InStep (s.complete now cs) := inStep_derive apart

/-- Judging a condition brings a list in step. -/
theorem inStep_mark (ne : name ≠ s.ready) : s.InStep (s.mark now name f cs) := by
  rw [mark, if_neg ne]
  exact inStep_derive apart

omit apart

theorem statusOf_mark_self (ne : name ≠ s.ready) :
    statusOf name (s.mark now name f cs) = some f.status := by
  rw [mark, if_neg ne, statusOf_derive_of_ne ne, statusOf_write_self]

theorem statusOf_mark_of_ne (ne : name ≠ s.ready) (notReady : other ≠ s.ready)
    (apart : other ≠ name) : statusOf other (s.mark now name f cs) = statusOf other cs := by
  rw [mark, if_neg ne, statusOf_derive_of_ne notReady, statusOf_write_of_ne apart]

/-- Completing a list makes no condition hold that did not, and leaves those that did. -/
theorem holds_complete_iff (ne : other ≠ s.ready) :
    statusOf other (s.complete now cs) = some holds ↔ statusOf other cs = some holds := by
  rw [complete, statusOf_derive_of_ne ne]
  rw [statusOf, find?_arrange, ← statusOf]
  cases here : find? other cs with
  | some c => rw [statusOf, find?_addMissing_of_some _ here, statusOf, here]
  | none =>
    have missing : statusOf other cs ≠ some holds := by simp [statusOf, here]
    have added : statusOf other (addMissing now s.names cs) ≠ some holds := by
      have added : statusOf other (addMissing now s.names cs) = Option.none ∨
          statusOf other (addMissing now s.names cs) = some unknown :=
        statusOf_addMissing_of_none s.names here
      obtain none | unknown := added
      · rw [none]
        exact nofun
      · rw [unknown]
        decide
    exact iff_of_false added missing

end Set

end HookRelay.Condition

namespace HookRelay.Source

open Condition (statusOf)

/-! ## Sources that are ready -/

/-- The names of the conditions that passes judge: all but `Ready`. -/
def judged : List String := [sinkProvided, deployed, webhookConfigured]

theorem forall_judged {P : String → Prop} :
    (∀ name ∈ judged, P name) ↔ P sinkProvided ∧ P deployed ∧ P webhookConfigured := by
  simp [judged]

theorem judged_ne_ready {name : String} (mem : name ∈ judged) : name ≠ ready := by
  rintro rfl
  revert mem
  decide

theorem conditions_apart : conditions.Apart := by
  unfold Condition.Set.Apart
  decide

/-- A condition of a status holds. -/
def Status.Holding (name : String) (st : Status) : Prop :=
  statusOf name st.conditions = some Condition.holds

/-- The conditions of a status are in step. -/
def Status.InStep (st : Status) : Prop := Source.conditions.InStep st.conditions

/-- **A source whose conditions are in step is ready exactly if all others hold.** -/
theorem Status.InStep.isReady_iff {st : Status} (inStep : st.InStep) :
    st.isReady = true ↔ ∀ name ∈ judged, st.Holding name := by
  have ready : st.isReady = true ↔ st.Holding ready := by
    rw [Status.isReady, Status.Holding, statusOf]
    cases Condition.find? Source.ready st.conditions <;> simp
  have follows : statusOf Source.ready st.conditions =
      some (Source.conditions.verdict st.conditions).status := inStep
  rw [ready, Status.Holding, follows, Option.some.injEq, Condition.Set.verdict_holds_iff]
  simp [Source.conditions, judged, Status.Holding]

/-- A source is not ready if a condition has another status than that it holds. -/
theorem Status.InStep.not_isReady {st : Status} (inStep : st.InStep) {name status : String}
    (mem : name ∈ judged) (stands : statusOf name st.conditions = some status)
    (other : status ≠ Condition.holds) : st.isReady ≠ true := by
  intro ready
  have holding : statusOf name st.conditions = some Condition.holds :=
    inStep.isReady_iff.1 ready name mem
  rw [stands] at holding
  exact other (Option.some.inj holding)

end HookRelay.Source

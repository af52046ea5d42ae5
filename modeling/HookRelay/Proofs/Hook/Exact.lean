import HookRelay.Proofs.Hook.Store

/-!
# GitLab that does what it says

A hook store is exact if each answer says what became of the hooks: a hook that was created or
deleted is all that changed, and a deletion that fails changed nothing. Any call may fail, whenever
it likes. Nothing is asked of edits here. The laws are over a view of the hooks of one scope, which
is absent where the store does not speak the truth.

## Main definitions

* `Client.Exact`, `Provider.Exact` : the laws
* `Store.truth` : the hooks of a store in memory that does not deny them

## Main statements

* `Store.provider_exact` : the laws hold in memory
-/

namespace HookRelay.Hook

variable {W : Type}

/-- **Hooks come and go as a client says.** Looking at a hook changes nothing. A hook that was created
or deleted is all that changed, and the number of a new one was free. A deletion that fails changes
nothing, and says that a hook is missing only if it is. -/
structure Client.Exact (hooks : W → Option Held) (c : Client W) : Prop where
  get : ∀ id, (c.get id).Within (Drift.fixing hooks)
  created : ∀ {w w' held options hook}, hooks w = some held → c.create options w = (.ok hook, w') →
    held hook.id = none ∧ hooks w' = some (Function.update held hook.id (some options))
  deleted : ∀ {w w' held id u}, hooks w = some held → c.delete id w = (.ok u, w') →
    hooks w' = some (Function.update held id none)
  undeleted : ∀ {w w' id e}, c.delete id w = (.error e, w') → hooks w' = hooks w
  missing : ∀ {w w' held id e}, hooks w = some held → c.delete id w = (.error e, w') →
    e.isNotFound = true → held id = none

/-- A provider whose clients for a scope are exact. -/
structure Provider.Exact (σ : Scope) (hooks : W → Option Held) (provider : Provider W) :
    Prop where
  opens : ∀ token, (provider.client σ token).Within (Drift.fixing hooks)
  clients : ∀ {token w w' c}, provider.client σ token w = (.ok c, w') → c.Exact hooks

/-! ## Hooks in memory -/

namespace Store

/-- A store that never denies a hook that it has, and whose numbers ahead are free. -/
structure Truthful (s : Store) : Prop where
  admits : s.mode ≠ .notFound
  free : ∀ id, s.lastId < id → find? id s.hooks = none

open Classical in
/-- The hooks of a store that does not deny them. -/
noncomputable def truth (s : Store) : Option Held := if s.Truthful then some s.held else none

theorem Truthful.truth {s : Store} (truthful : s.Truthful) : s.truth = some s.held :=
  if_pos truthful

theorem truthful_of_truth {s : Store} {held : Held} (h : s.truth = some held) :
    s.Truthful ∧ s.held = held := by
  unfold Store.truth at h
  split at h
  · next truthful => exact ⟨truthful, Option.some.inj h⟩
  · cases h

/-- What was asked is no part of the truth. -/
theorem truth_record (c : Call) (s : Store) : (s.record c).truth = s.truth := by
  by_cases truthful : s.Truthful
  · have recorded : (s.record c).Truthful := ⟨truthful.admits, truthful.free⟩
    rw [recorded.truth, truthful.truth]
    rfl
  · have untold : ¬ (s.record c).Truthful := fun h => truthful ⟨h.admits, h.free⟩
    rw [truth, truth, if_neg truthful, if_neg untold]

theorem truth_get (id : Int) (s : Store) : (get id s).2.truth = s.truth := by
  rw [get_apply]
  exact truth_record _ s

theorem truth_create {s s' : Store} {o : Options} {hook : Reported} {held : Held}
    (h : s.truth = some held) (run : create o s = (.ok hook, s')) :
    held hook.id = none ∧ s'.truth = some (Function.update held hook.id (some o)) := by
  obtain ⟨truthful, rfl⟩ := truthful_of_truth h
  cases failing : s.error? .create none with
  | some e =>
    rw [create_of_error failing] at run
    cases run
  | none =>
    rw [create_of_healthy failing] at run
    obtain ⟨answer, rfl⟩ := Prod.mk.inj run
    obtain rfl := Except.ok.inj answer
    refine ⟨truthful.free _ (Int.lt_succ _), ?_⟩
    refine Eq.trans (Truthful.truth ⟨truthful.admits, fun id ahead => ?_⟩) ?_
    · have ahead : s.lastId + 1 < id := ahead
      show find? id (put (s.lastId + 1) o s.hooks) = none
      rw [find?_put_of_ne (by omega)]
      exact truthful.free id (by omega)
    · exact congrArg some (find?_put _ o s.hooks)

theorem truth_delete {s s' : Store} {id : Int} {u : Unit} {held : Held} (h : s.truth = some held)
    (run : delete id s = (.ok u, s')) : s'.truth = some (Function.update held id none) := by
  obtain ⟨truthful, rfl⟩ := truthful_of_truth h
  cases failing : s.error? .delete (some id) with
  | some e =>
    rw [delete_of_error failing] at run
    cases run
  | none =>
    cases here : s.held id with
    | none =>
      rw [delete_of_missing failing here] at run
      cases run
    | some before =>
      rw [delete_of_found failing here] at run
      obtain ⟨-, rfl⟩ := Prod.mk.inj run
      refine Eq.trans (Truthful.truth ⟨truthful.admits, fun other ahead => ?_⟩) ?_
      · show find? other (drop id s.hooks) = none
        by_cases same : other = id
        · rw [same, find?_drop_self]
        · rw [find?_drop_of_ne same]
          exact truthful.free other ahead
      · exact congrArg some (find?_drop id s.hooks)

/-- A hook that could not be deleted is where it was, and is not there if the store says so. -/
theorem truth_delete_error {s s' : Store} {id : Int} {e : Error}
    (run : delete id s = (.error e, s')) :
    s'.truth = s.truth ∧ ∀ held, s.truth = some held → e.isNotFound = true → held id = none := by
  cases failing : s.error? .delete (some id) with
  | some e' =>
    rw [delete_of_error failing] at run
    obtain ⟨answer, rfl⟩ := Prod.mk.inj run
    obtain rfl := Except.error.inj answer
    refine ⟨truth_record _ s, fun held h missing => ?_⟩
    obtain ⟨truthful, rfl⟩ := truthful_of_truth h
    have unseen : s.shown id = none := shown_of_lying failing missing
    rwa [shown, if_neg truthful.admits] at unseen
  | none =>
    cases here : s.held id with
    | none =>
      rw [delete_of_missing failing here] at run
      obtain ⟨-, rfl⟩ := Prod.mk.inj run
      refine ⟨truth_record _ s, fun held h _ => ?_⟩
      obtain ⟨-, rfl⟩ := truthful_of_truth h
      exact here
    | some before =>
      rw [delete_of_found failing here] at run
      cases run

section Part

variable {part : Part W Store} (lawful : part.Lawful)
include lawful

theorem client_exact : (client part).Exact fun w => (part.get w).truth where
  get id w := by
    show (part.get (part.set (get id (part.get w)).2 w)).truth = _
    rw [lawful, truth_get]
  created {w w' held options hook} h run := by
    obtain ⟨answer, rfl⟩ := Prod.mk.inj run
    rw [lawful]
    exact truth_create h (Prod.ext answer rfl)
  deleted {w w' held id u} h run := by
    obtain ⟨answer, rfl⟩ := Prod.mk.inj run
    rw [lawful]
    exact truth_delete h (Prod.ext answer rfl)
  undeleted {w w' id e} run := by
    obtain ⟨answer, rfl⟩ := Prod.mk.inj run
    rw [lawful]
    exact (truth_delete_error (Prod.ext answer rfl)).1
  missing {w w' held id e} h run missing := by
    obtain ⟨answer, rfl⟩ := Prod.mk.inj run
    exact (truth_delete_error (Prod.ext answer rfl)).2 held h missing

/-- **A store in memory is exact** as long as it does not deny hooks; calls may fail. -/
theorem provider_exact (σ : Scope) :
    (provider part).Exact σ fun w => (part.get w).truth where
  opens token w := by
    rw [provider_apply]
    show (part.get (part.set ((part.get w).record (.client σ token)) w)).truth = _
    rw [lawful, truth_record]
  clients run := client_of_provider run ▸ client_exact lawful

end Part

end Store

end HookRelay.Hook

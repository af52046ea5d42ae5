import HookRelay.Proofs.Hook.Keeping
import HookRelay.Hook.Store

/-!
# Hooks in memory

The store of hooks in memory behaves as GitLab is said to: whatever it is told to answer, it keeps
hooks, and as long as nothing is to fail, it serves them.

## Main definitions

* `Store.shown` : the hooks that a store shows
* `Store.Up`, `Store.served` : nothing is to fail, and the hooks meanwhile

## Main statements

* `Store.provider_keeps`, `Store.provider_removes`, `Store.provider_serves` : the laws of a
  provider hold
-/

namespace HookRelay.Hook.Store

/-- The hooks of a store. -/
def held (s : Store) : Held := fun id => find? id s.hooks

theorem find?_put (id : Int) (o : Options) (hooks : List (Int × Options)) :
    (fun i => find? i (put id o hooks)) =
      Function.update (fun i => find? i hooks) id (some o) := by
  funext i
  by_cases e : i = id
  · subst e
    rw [find?_put_self, Function.update_self]
  · rw [find?_put_of_ne e, Function.update_of_ne e]

theorem find?_drop (id : Int) (hooks : List (Int × Options)) :
    (fun i => find? i (drop id hooks)) =
      Function.update (fun i => find? i hooks) id none := by
  funext i
  by_cases e : i = id
  · subst e
    rw [find?_drop_self, Function.update_self]
  · rw [find?_drop_of_ne e, Function.update_of_ne e]

/-- Nothing is to fail, and the numbers ahead are free. -/
structure Up (s : Store) : Prop where
  healthy : s.mode = .healthy
  opens : s.clientError = none
  free : ∀ id, s.lastId < id → find? id s.hooks = none

namespace Up

variable {s : Store}

theorem error? (up : s.Up) (op : Operation) (id : Option Int) : s.error? op id = none := by
  simp [Store.error?, up.healthy, Mode.error?]

theorem record (up : s.Up) (c : Call) : (s.record c).Up := ⟨up.healthy, up.opens, up.free⟩

theorem le_lastId (up : s.Up) {id : Int} {o : Options} (here : find? id s.hooks = some o) :
    id ≤ s.lastId := by
  by_contra ahead
  rw [up.free id (Int.not_le.1 ahead)] at here
  cases here

theorem create (up : s.Up) (o : Options) :
    Up { s with lastId := s.lastId + 1, hooks := put (s.lastId + 1) o s.hooks } := by
  refine ⟨up.healthy, up.opens, fun id ahead => ?_⟩
  have ahead : s.lastId + 1 < id := ahead
  rw [find?_put_of_ne (by omega)]
  exact up.free id (by omega)

theorem edit (up : s.Up) {id : Int} {before : Options} (here : find? id s.hooks = some before)
    (o : Options) : Up { s with hooks := put id o s.hooks } := by
  refine ⟨up.healthy, up.opens, fun other ahead => ?_⟩
  have below := up.le_lastId here
  have ahead : s.lastId < other := ahead
  rw [find?_put_of_ne (by omega)]
  exact up.free other ahead

theorem delete (up : s.Up) (id : Int) : Up { s with hooks := drop id s.hooks } := by
  refine ⟨up.healthy, up.opens, fun other ahead => ?_⟩
  by_cases e : other = id
  · subst e
    exact find?_drop_self other s.hooks
  · rw [find?_drop_of_ne e]
    exact up.free other ahead

end Up

/-! ### The operations, by what a store is told to answer -/

theorem get_apply (id : Int) (s : Store) :
    get id s = (match s.error? .get (some id), s.held id with
      | some e, _ => .error e
      | none, some o => .ok ⟨id, o.url⟩
      | none, none => .error (.notFound id), s.record (.get id)) := by
  have failing : (s.record (.get id)).error? .get (some id) = s.error? .get (some id) := rfl
  have here : find? id (s.record (.get id)).hooks = s.held id := rfl
  simp only [get, failing, here]
  cases s.error? .get (some id) <;> cases s.held id <;> rfl

theorem create_of_error {o : Options} {s : Store} {e : Error}
    (failing : s.error? .create none = some e) :
    create o s = (.error e, s.record (.create o)) := by
  have failing : (s.record (.create o)).error? .create none = some e := failing
  simp only [create, failing]

theorem create_of_healthy {o : Options} {s : Store} (healthy : s.error? .create none = none) :
    create o s = (.ok ⟨s.lastId + 1, o.url⟩, { s.record (.create o) with
      lastId := s.lastId + 1, hooks := put (s.lastId + 1) o s.hooks }) := by
  have healthy : (s.record (.create o)).error? .create none = none := healthy
  simp only [create, healthy]
  rfl

theorem edit_of_error {id : Int} {o : Options} {s : Store} {e : Error}
    (failing : s.error? .edit (some id) = some e) :
    edit id o s = (.error e, s.record (.edit id o)) := by
  have failing : (s.record (.edit id o)).error? .edit (some id) = some e := failing
  simp only [edit, failing]

theorem edit_of_missing {id : Int} {o : Options} {s : Store}
    (healthy : s.error? .edit (some id) = none) (missing : s.held id = none) :
    edit id o s = (.error (.notFound id), s.record (.edit id o)) := by
  have healthy : (s.record (.edit id o)).error? .edit (some id) = none := healthy
  have missing : find? id (s.record (.edit id o)).hooks = none := missing
  simp only [edit, healthy, missing]

theorem edit_of_found {id : Int} {o before : Options} {s : Store}
    (healthy : s.error? .edit (some id) = none) (found : s.held id = some before) :
    edit id o s = (.ok ⟨id, o.url⟩, { s.record (.edit id o) with hooks := put id o s.hooks }) := by
  have healthy : (s.record (.edit id o)).error? .edit (some id) = none := healthy
  have found : find? id (s.record (.edit id o)).hooks = some before := found
  simp only [edit, healthy, found]
  rfl

theorem delete_of_error {id : Int} {s : Store} {e : Error}
    (failing : s.error? .delete (some id) = some e) :
    delete id s = (.error e, s.record (.delete id)) := by
  have failing : (s.record (.delete id)).error? .delete (some id) = some e := failing
  simp only [delete, failing]

theorem delete_of_missing {id : Int} {s : Store} (healthy : s.error? .delete (some id) = none)
    (missing : s.held id = none) :
    delete id s = (.error (.notFound id), s.record (.delete id)) := by
  have healthy : (s.record (.delete id)).error? .delete (some id) = none := healthy
  have missing : find? id (s.record (.delete id)).hooks = none := missing
  simp only [delete, healthy, missing]

theorem delete_of_found {id : Int} {before : Options} {s : Store}
    (healthy : s.error? .delete (some id) = none) (found : s.held id = some before) :
    delete id s = (.ok (), { s.record (.delete id) with hooks := drop id s.hooks }) := by
  have healthy : (s.record (.delete id)).error? .delete (some id) = none := healthy
  have found : find? id (s.record (.delete id)).hooks = some before := found
  simp only [delete, healthy, found]
  rfl

/-! ### Hooks are kept -/

/-- The hooks that a store shows: one that says of every hook that it is missing shows none. -/
def shown (s : Store) : Held := if s.mode = .notFound then fun _ => none else s.held

theorem shown_none {s : Store} {id : Int} (none : s.held id = none) : s.shown id = Option.none := by
  unfold shown
  split
  · rfl
  · exact none

theorem shown_of_lying {s : Store} {op : Operation} {id other : Int} {e : Error}
    (failing : s.error? op (some id) = some e) (missing : e.isNotFound = true) :
    s.shown other = none := by
  unfold Store.error? at failing
  split at failing
  · have lying : s.mode = .notFound := by
      cases mode : s.mode with
      | healthy => rw [mode] at failing; cases failing
      | notFound => rfl
      | unauthorized | forbidden | failing | invalidUrl =>
        rw [mode] at failing; cases failing; cases missing
    rw [shown, if_pos lying]
  · cases failing

/-- Putting a hook shows no other that was not shown. -/
theorem shown_put {s s' : Store} {id other : Int} {o : Options} (mode : s'.mode = s.mode)
    (hooks : s'.hooks = put id o s.hooks) (here : (s'.shown other).isSome) :
    other = id ∨ (s.shown other).isSome := by
  by_cases same : other = id
  · exact .inl same
  · refine .inr ?_
    rw [shown, mode] at here
    rw [shown]
    split at here
    · cases here
    · next honest =>
      rw [if_neg honest]
      rwa [held, hooks, find?_put_of_ne same] at here

theorem shown_of_get {id : Int} {s s' : Store} {e : Error} (run : get id s = (.error e, s'))
    (missing : e.isNotFound = true) : s'.shown id = none := by
  rw [get_apply] at run
  obtain ⟨answer, rfl⟩ := Prod.mk.inj run
  cases failing : s.error? .get (some id) with
  | some e' =>
    rw [failing] at answer
    cases answer
    exact shown_of_lying (s := s.record (.get id)) failing missing
  | none =>
    cases here : s.held id with
    | none => exact shown_none (s := s.record (.get id)) here
    | some o =>
      rw [failing, here] at answer
      cases answer

theorem shown_edit {id other : Int} {o : Options} {s : Store}
    (here : ((edit id o s).2.shown other).isSome) : (s.shown other).isSome := by
  cases failing : s.error? .edit (some id) with
  | some e => rwa [edit_of_error failing] at here
  | none =>
    cases found : s.held id with
    | none => rwa [edit_of_missing failing found] at here
    | some before =>
      rw [edit_of_found failing found] at here
      have put := shown_put (s := s) (by rfl) (by rfl) here
      obtain rfl | before := put
      · rw [shown] at here ⊢
        split at here
        · cases here
        · next honest =>
          have honest : ¬ s.mode = .notFound := honest
          rw [if_neg honest, found]
          rfl
      · exact before

theorem shown_create {other : Int} {o : Options} {s s' : Store} {hook : Reported}
    (run : create o s = (.ok hook, s')) (here : (s'.shown other).isSome) :
    other = hook.id ∨ (s.shown other).isSome := by
  cases failing : s.error? .create none with
  | some e =>
    rw [create_of_error failing] at run
    cases run
  | none =>
    rw [create_of_healthy failing] at run
    cases run
    exact shown_put (by rfl) (by rfl) here

theorem shown_create_refused {o : Options} {s s' : Store} {e : Error}
    (run : create o s = (.error e, s')) : s'.shown = s.shown := by
  cases failing : s.error? .create none with
  | some e' =>
    rw [create_of_error failing] at run
    cases run
    rfl
  | none =>
    rw [create_of_healthy failing] at run
    cases run

/-- Taking a hook out shows none that was not shown. -/
theorem shown_drop {s s' : Store} {id other : Int} (mode : s'.mode = s.mode)
    (hooks : s'.hooks = drop id s.hooks) (here : (s'.shown other).isSome) :
    other ≠ id ∧ (s.shown other).isSome := by
  rw [shown, mode] at here
  rw [shown]
  split at here
  · cases here
  · next honest =>
    rw [if_neg honest]
    rw [held, hooks] at here
    by_cases same : other = id
    · rw [same, find?_drop_self] at here
      cases here
    · rw [find?_drop_of_ne same] at here
      exact ⟨same, here⟩

theorem shown_delete {id other : Int} {s : Store}
    (here : ((delete id s).2.shown other).isSome) : (s.shown other).isSome := by
  cases failing : s.error? .delete (some id) with
  | some e => rwa [delete_of_error failing] at here
  | none =>
    cases found : s.held id with
    | none => rwa [delete_of_missing failing found] at here
    | some before =>
      rw [delete_of_found failing found] at here
      exact (shown_drop (s := s) (by rfl) (by rfl) here).2

/-- A hook is not shown if the store says that it was deleted, or that it is not there. -/
theorem shown_of_delete {id : Int} {s s' : Store} {answer : Except Error Unit}
    (run : delete id s = (answer, s')) (gone : ∀ e, answer = .error e → e.isNotFound = true) :
    s'.shown id = none := by
  cases failing : s.error? .delete (some id) with
  | some e =>
    rw [delete_of_error failing] at run
    cases run
    exact shown_of_lying (s := s.record (.delete id)) failing (gone e rfl)
  | none =>
    cases found : s.held id with
    | none =>
      rw [delete_of_missing failing found] at run
      cases run
      exact shown_none (s := s.record (.delete id)) found
    | some before =>
      rw [delete_of_found failing found] at run
      cases run
      exact shown_none (find?_drop_self id s.hooks)

section Part

variable {W : Type} {part : Part W Store} (lawful : part.Lawful)
include lawful

theorem client_keeps : (client part).Keeps fun w => (part.get w).shown where
  get id w other here := by
    have here : ((part.get (part.set (get id (part.get w)).2 w)).shown other).isSome := here
    rwa [lawful, get_apply] at here
  missing {id w w' e} run missing := by
    obtain ⟨answer, rfl⟩ := Prod.mk.inj run
    rw [lawful]
    exact shown_of_get (Prod.ext answer rfl) missing
  edit id options w other here := by
    have here : ((part.get (part.set (edit id options (part.get w)).2 w)).shown other).isSome :=
      here
    rw [lawful] at here
    exact shown_edit here
  created {options w w' hook} run other here := by
    obtain ⟨answer, rfl⟩ := Prod.mk.inj run
    rw [lawful] at here
    exact shown_create (Prod.ext answer rfl) here
  refused {options w w' e} run other here := by
    obtain ⟨answer, rfl⟩ := Prod.mk.inj run
    have here : ((part.get (part.set (create options (part.get w)).2 w)).shown other).isSome :=
      here
    have same := shown_create_refused (s := part.get w) (Prod.ext answer rfl)
    rwa [lawful, same] at here

omit lawful in
theorem provider_apply (part : Part W Store) (σ : Scope) (token : String) (w : W) :
    (provider part).client σ token w =
      (match (part.get w).clientError with
        | some e => .error e
        | none => .ok (client part), part.set ((part.get w).record (.client σ token)) w) := by
  cases failing : (part.get w).clientError <;> simp [provider, Part.act, record, failing]

omit lawful in
/-- A store hands out one client. -/
theorem client_of_provider {σ : Scope} {token : String} {w w' : W} {c : Client W}
    (run : (provider part).client σ token w = (.ok c, w')) : c = client part := by
  rw [provider_apply] at run
  cases failing : (part.get w).clientError with
  | some e =>
    rw [failing] at run
    cases run
  | none =>
    rw [failing] at run
    exact (Except.ok.inj (Prod.mk.inj run).1).symm

/-- **A store keeps hooks**, whatever it is told to answer. -/
theorem provider_keeps (σ : Scope) : (provider part).Keeps σ fun w => (part.get w).shown where
  opens token w id here := by
    rw [provider_apply] at here
    have here : ((part.get (part.set ((part.get w).record (.client σ token)) w)).shown id).isSome :=
      here
    rwa [lawful] at here
  clients run := client_of_provider run ▸ client_keeps lawful

theorem client_removes : (client part).Removes fun w => (part.get w).shown where
  delete id w other here := by
    have here : ((part.get (part.set (delete id (part.get w)).2 w)).shown other).isSome := here
    rw [lawful] at here
    exact shown_delete here
  deleted {id w w' u} run := by
    obtain ⟨answer, rfl⟩ := Prod.mk.inj run
    rw [lawful]
    exact shown_of_delete (Prod.ext answer rfl) fun e failed => by cases failed
  missing {id w w' e} run missing := by
    obtain ⟨answer, rfl⟩ := Prod.mk.inj run
    rw [lawful]
    refine shown_of_delete (Prod.ext answer rfl) fun e' failed => ?_
    rwa [← Except.error.inj failed]

/-- **A store removes hooks**, whatever it is told to answer. -/
theorem provider_removes (σ : Scope) : (provider part).Removes σ fun w => (part.get w).shown := by
  intro token w w' c run
  rw [client_of_provider run]
  exact client_removes lawful

/-! ### Hooks are served -/

omit lawful

open Classical in
/-- The hooks of a store as long as nothing is to fail. -/
noncomputable def served (s : Store) : Option Held := if s.Up then some s.held else none

theorem up_of_served {s : Store} {hooks : Held} (h : s.served = some hooks) :
    s.Up ∧ s.held = hooks := by
  unfold served at h
  split at h
  · exact ⟨‹_›, Option.some.inj h⟩
  · cases h

theorem Up.served {s : Store} (up : s.Up) : s.served = some s.held := if_pos up

include lawful

theorem served_set {s : Store} (up : s.Up) (w : W) :
    (part.get (part.set s w)).served = some s.held := by
  rw [lawful, up.served]

theorem client_serves : (client part).Serves fun w => (part.get w).served where
  found {w hooks id options} h here := by
    obtain ⟨up, rfl⟩ := up_of_served h
    have run := Part.act_apply part (get id) w
    rw [get_apply, up.error?, here] at run
    exact ⟨_, _, run, served_set lawful (up.record (.get id)) w⟩
  missing {w hooks id} h gone := by
    obtain ⟨up, rfl⟩ := up_of_served h
    have run := Part.act_apply part (get id) w
    rw [get_apply, up.error?, gone] at run
    exact ⟨_, _, run, rfl, served_set lawful (up.record (.get id)) w⟩
  created {w hooks} options h := by
    obtain ⟨up, rfl⟩ := up_of_served h
    have run := Part.act_apply part (create options) w
    rw [create_of_healthy (up.error? _ _)] at run
    refine ⟨_, _, run, up.free _ (Int.lt_succ _), ?_⟩
    refine (served_set lawful ((up.record (.create options)).create options) w).trans ?_
    exact congrArg some (find?_put _ options (part.get w).hooks)
  edited {w hooks id before} options h here := by
    obtain ⟨up, rfl⟩ := up_of_served h
    have run := Part.act_apply part (edit id options) w
    rw [edit_of_found (up.error? _ _) here] at run
    refine ⟨_, _, run, ?_⟩
    refine (served_set lawful ((up.record (.edit id options)).edit here options) w).trans ?_
    exact congrArg some (find?_put id options (part.get w).hooks)
  deleted {w hooks id before} h here := by
    obtain ⟨up, rfl⟩ := up_of_served h
    have run := Part.act_apply part (delete id) w
    rw [delete_of_found (up.error? _ _) here] at run
    refine ⟨_, run, ?_⟩
    refine (served_set lawful ((up.record (.delete id)).delete id) w).trans ?_
    exact congrArg some (find?_drop id (part.get w).hooks)
  gone {w hooks id} h gone := by
    obtain ⟨up, rfl⟩ := up_of_served h
    have run := Part.act_apply part (delete id) w
    rw [delete_of_missing (up.error? _ _) gone] at run
    exact ⟨_, _, run, rfl, served_set lawful (up.record (.delete id)) w⟩

/-- **A store serves hooks** as long as nothing is to fail. -/
theorem provider_serves (σ : Scope) :
    (provider part).Serves σ fun w => (part.get w).served := by
  intro w hooks token h
  obtain ⟨up, rfl⟩ := up_of_served h
  have run := provider_apply part σ token w
  rw [up.opens] at run
  exact ⟨_, _, run, client_serves lawful, served_set lawful (up.record (.client σ token)) w⟩

end Part

end HookRelay.Hook.Store

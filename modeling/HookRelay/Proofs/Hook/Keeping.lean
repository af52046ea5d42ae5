import HookRelay.Hook.Sync
import HookRelay.Proofs.World.Drift
import Mathlib.Logic.Function.Basic

/-!
# What GitLab does with hooks

Two things are said of GitLab here, as laws over a view of the hooks of one scope. A provider
*keeps* hooks if no hook appears but those that it says it created; anything may be refused, and
anybody may delete and edit hooks at any time. A provider *serves* hooks if it does what it is
asked for and nothing else happens.

## Main definitions

* `Held`, `thinning` : the hooks of a scope, and that none appears
* `Client.Keeps`, `Provider.Keeps` : no hook appears but those that were created
* `Client.Removes`, `Provider.Removes` : a hook is gone if it is said to be
* `Client.Serves`, `Provider.Serves` : hooks are read and written as asked for
* `Synced` : how a hook is found as it should be

## Main statements

* `sync_serves` : with a client that serves hooks, a hook is made as it should be
* `remove_serves` : with such a client, a hook is deleted
-/

namespace HookRelay.Hook

variable {W : Type}

/-- The hooks of a scope under their numbers, the `webhookId`s of sources. -/
abbrev Held := Int → Option Options

/-- No hook appears; any may be edited or be gone. -/
def thinning (hooks : W → Held) : Drift W where
  rel w w' := ∀ id, (hooks w' id).isSome → (hooks w id).isSome
  refl _ _ here := here
  trans first second id here := first id (second id here)

/-- **No hook appears but those that a client says it created.** A hook is reported missing only
if it is. Anything else may be answered, and anybody may delete and edit hooks meanwhile. -/
structure Client.Keeps (hooks : W → Held) (c : Client W) : Prop where
  get : ∀ id, (c.get id).Within (thinning hooks)
  missing : ∀ {id w w' e}, c.get id w = (.error e, w') → e.isNotFound = true → hooks w' id = none
  edit : ∀ id options, (c.edit id options).Within (thinning hooks)
  created : ∀ {options w w' hook}, c.create options w = (.ok hook, w') →
    ∀ id, (hooks w' id).isSome → id = hook.id ∨ (hooks w id).isSome
  refused : ∀ {options w w' e}, c.create options w = (.error e, w') → (thinning hooks).rel w w'

/-- A provider whose clients for a scope keep its hooks. -/
structure Provider.Keeps (σ : Scope) (hooks : W → Held) (provider : Provider W) : Prop where
  opens : ∀ token, (provider.client σ token).Within (thinning hooks)
  clients : ∀ {token w w' c}, provider.client σ token w = (.ok c, w') → c.Keeps hooks

/-- **A hook is gone if a client says that it was deleted**, or that it is not there. No hook
appears when one is deleted. -/
structure Client.Removes (hooks : W → Held) (c : Client W) : Prop where
  delete : ∀ id, (c.delete id).Within (thinning hooks)
  deleted : ∀ {id w w' u}, c.delete id w = (.ok u, w') → hooks w' id = none
  missing : ∀ {id w w' e}, c.delete id w = (.error e, w') → e.isNotFound = true →
    hooks w' id = none

/-- A provider whose clients for a scope remove its hooks. -/
def Provider.Removes (σ : Scope) (hooks : W → Held) (provider : Provider W) : Prop :=
  ∀ {token w w' c}, provider.client σ token w = (.ok c, w') → c.Removes hooks

/-- **Hooks are read and written as asked for**, as long as GitLab is up; `gitlab` is the hooks of
the scope then, and nothing otherwise. -/
structure Client.Serves (gitlab : W → Option Held) (c : Client W) : Prop where
  found : ∀ {w hooks id options}, gitlab w = some hooks → hooks id = some options →
    ∃ hook w', c.get id w = (.ok hook, w') ∧ gitlab w' = some hooks
  missing : ∀ {w hooks id}, gitlab w = some hooks → hooks id = none →
    ∃ e w', c.get id w = (.error e, w') ∧ e.isNotFound = true ∧ gitlab w' = some hooks
  created : ∀ {w hooks} options, gitlab w = some hooks →
    ∃ hook w', c.create options w = (.ok hook, w') ∧ hooks hook.id = none ∧
      gitlab w' = some (Function.update hooks hook.id (some options))
  edited : ∀ {w hooks id before} options, gitlab w = some hooks → hooks id = some before →
    ∃ hook w', c.edit id options w = (.ok hook, w') ∧
      gitlab w' = some (Function.update hooks id (some options))
  deleted : ∀ {w hooks id before}, gitlab w = some hooks → hooks id = some before →
    ∃ w', c.delete id w = (.ok (), w') ∧ gitlab w' = some (Function.update hooks id none)
  gone : ∀ {w hooks id}, gitlab w = some hooks → hooks id = none →
    ∃ e w', c.delete id w = (.error e, w') ∧ e.isNotFound = true ∧ gitlab w' = some hooks

/-- A provider that serves the hooks of a scope. -/
def Provider.Serves (σ : Scope) (gitlab : W → Option Held) (provider : Provider W) : Prop :=
  ∀ {w hooks} token, gitlab w = some hooks →
    ∃ c w', provider.client σ token w = (.ok c, w') ∧ c.Serves gitlab ∧ gitlab w' = some hooks

/-! ## Making a hook as it should be -/

/-- How `Hook.sync` finds a hook: the recorded one was there and is written again, or it was gone,
or there was none, and one is created. -/
inductive Synced (hooks : Held) : (recorded : Option Int) → Outcome → Prop where
  | updated {id : Int} (here : (hooks id).isSome) : Synced hooks (some id) (.updated id)
  | created {id : Int} (fresh : hooks id = none) : Synced hooks none (.created id)
  | recreated {previous id : Int} (gone : hooks previous = none) (fresh : hooks id = none) :
      Synced hooks (some previous) (.recreated previous id)

variable {gitlab : W → Option Held} {count : Counter → Act W Unit} {client : Client W}
  {hooks : Held} {w : W}

theorem counted_apply {α : Type} (count : Counter → Act W Unit) (operation : String)
    (a : Act W (Except Error α)) (w : W) :
    counted count operation a w =
      ((a w).1, (count (.hookOperation operation (outcomeOf (a w).1)) (a w).2).2) := rfl

section Serves

variable (counters : ∀ c, (count c).Within (Drift.fixing gitlab))
include counters

theorem counted_serves {α : Type} (operation : String) {a : Act W (Except Error α)}
    {r : Except Error α} {w' : W} {held : Held} (run : a w = (r, w'))
    (left : gitlab w' = some held) :
    ∃ w'', counted count operation a w = (r, w'') ∧ gitlab w'' = some held := by
  refine ⟨_, by rw [counted_apply, run], ?_⟩
  exact (counters _ w').trans left

theorem createNew_serves (serves : client.Serves gitlab) (up : gitlab w = some hooks)
    (options : Options) (outcome : Int → Outcome) :
    ∃ id w', createNew count client options outcome w = (.ok (outcome id), w') ∧
      hooks id = none ∧ gitlab w' = some (Function.update hooks id (some options)) := by
  obtain ⟨hook, w₁, created, fresh, left⟩ := serves.created options up
  obtain ⟨w₂, run, left⟩ := counted_serves counters "create" created left
  exact ⟨hook.id, w₂, by rw [createNew, Act.bind_apply, run]; rfl, fresh, left⟩

/-- **A hook is made as it should be** by a client that serves: it has the wanted fields then,
and no other hook is touched. -/
theorem sync_serves (serves : client.Serves gitlab) (up : gitlab w = some hooks)
    (options : Options) (recorded : Option Int) :
    ∃ outcome w', sync count client options recorded w = (.ok outcome, w') ∧
      Synced hooks recorded outcome ∧
      gitlab w' = some (Function.update hooks outcome.id (some options)) := by
  cases recorded with
  | none =>
    obtain ⟨id, w', run, fresh, left⟩ := createNew_serves counters serves up options .created
    exact ⟨.created id, w', run, .created fresh, left⟩
  | some id =>
    cases here : hooks id with
    | none =>
      obtain ⟨e, w₁, missing, notFound, left⟩ := serves.missing up here
      obtain ⟨w₂, looked, left⟩ := counted_serves counters "get" missing left
      obtain ⟨new, w', run, fresh, left⟩ :=
        createNew_serves counters serves left options (.recreated id)
      refine ⟨.recreated id new, w', ?_, .recreated here fresh, left⟩
      rw [sync, Act.bind_apply, looked]
      simpa [notFound] using run
    | some before =>
      obtain ⟨hook, w₁, found, left⟩ := serves.found up here
      obtain ⟨w₂, looked, left⟩ := counted_serves counters "get" found left
      obtain ⟨hook', w₃, edited, left⟩ := serves.edited options left here
      obtain ⟨w', written, left⟩ := counted_serves counters "edit" edited left
      refine ⟨.updated id, w', ?_, .updated (by simp [here]), left⟩
      rw [sync, Act.bind_apply, looked]
      show overwrite count client options id w₂ = _
      rw [overwrite, Act.bind_apply, written]
      rfl

/-- A hook is gone behind a client that serves, whether it was there or not. -/
theorem remove_serves (serves : client.Serves gitlab) (up : gitlab w = some hooks) (id : Int) :
    ∃ gone w', remove count client id w = (.ok gone, w') ∧
      gitlab w' = some (Function.update hooks id none) := by
  cases here : hooks id with
  | none =>
    obtain ⟨e, w₁, missing, notFound, left⟩ := serves.gone up here
    obtain ⟨w', asked, left⟩ := counted_serves counters "delete" missing left
    refine ⟨false, w', ?_, ?_⟩
    · rw [remove, Act.bind_apply, asked]
      simp [notFound]
    · rw [left, Function.update_eq_self_iff.2 here.symm]
  | some before =>
    obtain ⟨w₁, deleted, left⟩ := serves.deleted up here
    obtain ⟨w', asked, left⟩ := counted_serves counters "delete" deleted left
    refine ⟨true, w', ?_, left⟩
    rw [remove, Act.bind_apply, asked]
    rfl

end Serves

end HookRelay.Hook

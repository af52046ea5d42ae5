import HookRelay.Pass.Finalize
import HookRelay.Proofs.Pass.OnHook

/-!
# What a pass can do to the world

A pass does nothing to the world but what its collaborators do. Where all of them keep to a drift,
GitLab included, so does every pass, whether it brings a source to what it asks for or takes it
down. Not all of them take part in both: a pass that brings a source to what it asks for deletes no
hook, and one that takes a source down neither creates nor edits one.

## Main definitions

* `Hook.Provider.Within`, `Collaborators.Throughout` : GitLab, and all collaborators, keep to a
  drift
* `Pass.Forward`, `Pass.Backward` : so does what takes part in bringing a source to what it asks
  for, and in taking it down

## Main statements

* `Pass.within_converge`, `Pass.within_finalize` : so do passes
* `Pass.within_converge_of_forward`, `Pass.within_finalize_of_backward` : what takes part is enough
-/

namespace HookRelay

variable {W : Type} {d : Drift W}

namespace Hook

/-- A client keeps to a drift. -/
structure Client.Within (d : Drift W) (c : Client W) : Prop where
  get : ∀ id, (c.get id).Within d
  create : ∀ options, (c.create options).Within d
  edit : ∀ id options, (c.edit id options).Within d
  delete : ∀ id, (c.delete id).Within d

/-- A client keeps to a drift, if it is not to delete. -/
structure Client.SyncsWithin (d : Drift W) (c : Client W) : Prop where
  get : ∀ id, (c.get id).Within d
  create : ∀ options, (c.create options).Within d
  edit : ∀ id options, (c.edit id options).Within d

theorem Client.Within.syncs {c : Client W} (h : c.Within d) : c.SyncsWithin d :=
  ⟨h.get, h.create, h.edit⟩

/-- A provider and the clients that it hands out keep to a drift. -/
structure Provider.Within (d : Drift W) (provider : Provider W) : Prop where
  opens : ∀ scope token, (provider.client scope token).Within d
  clients : ∀ {scope token w w' c}, provider.client scope token w = (.ok c, w') → c.Within d

/-- A provider keeps to a drift where one scope is concerned. -/
structure Provider.WithinOn (d : Drift W) (σ : Scope) (provider : Provider W) : Prop where
  opens : ∀ token, (provider.client σ token).Within d
  clients : ∀ {token w w' c}, provider.client σ token w = (.ok c, w') → c.Within d

/-- A provider keeps to a drift where one scope is concerned, if nothing is to be deleted. -/
structure Provider.SyncsWithinOn (d : Drift W) (σ : Scope) (provider : Provider W) : Prop where
  opens : ∀ token, (provider.client σ token).Within d
  clients : ∀ {token w w' c}, provider.client σ token w = (.ok c, w') → c.SyncsWithin d

theorem Provider.WithinOn.syncs {σ : Scope} {provider : Provider W} (h : provider.WithinOn d σ) :
    provider.SyncsWithinOn d σ :=
  ⟨h.opens, fun opened => (h.clients opened).syncs⟩

theorem Provider.Within.on {provider : Provider W} (h : provider.Within d) (σ : Scope) :
    provider.WithinOn d σ :=
  ⟨h.opens σ, h.clients⟩

section Sync

variable {count : Counter → Act W Unit} {client : Client W} {options : Options}
  (counters : ∀ c, (count c).Within d)
include counters

theorem within_counted {α : Type} (operation : String) {a : Act W (Except Error α)}
    (h : a.Within d) : (counted count operation a).Within d :=
  h.bind fun _ => (counters _).bind fun _ => Act.within_pure _

/-- Deleting a hook does to the world what the client does when it deletes one. -/
theorem within_remove (id : Int) (within : (client.delete id).Within d) :
    (remove count client id).Within d := by
  refine (within_counted counters "delete" within).bind fun answer => ?_
  cases answer with
  | ok u => exact Act.within_pure _
  | error e =>
    dsimp only
    split
    · exact Act.within_pure _
    · exact Act.within_pure _

theorem within_createNew (creates : (client.create options).Within d) (outcome : Int → Outcome) :
    (createNew count client options outcome).Within d := by
  refine (within_counted counters "create" creates).bind fun answer => ?_
  cases answer with
  | ok hook => exact Act.within_pure _
  | error e => exact Act.within_pure _

theorem within_overwrite {id : Int} (edits : (client.edit id options).Within d) :
    (overwrite count client options id).Within d := by
  refine (within_counted counters "edit" edits).bind fun answer => ?_
  cases answer with
  | ok hook => exact Act.within_pure _
  | error e => exact Act.within_pure _

/-- Making the hook as it should be does to the world what the client does to the recorded hook, or
when it creates one with the wanted fields. -/
theorem within_sync {recorded : Option Int}
    (gets : ∀ id, recorded = some id → (client.get id).Within d)
    (creates : (client.create options).Within d)
    (edits : ∀ id, recorded = some id → (client.edit id options).Within d) :
    (sync count client options recorded).Within d := by
  cases recorded with
  | none => exact within_createNew counters creates _
  | some id =>
    refine (within_counted counters "get" (gets id rfl)).bind fun answer => ?_
    cases answer with
    | ok hook => exact within_overwrite counters (edits id rfl)
    | error e =>
      dsimp only
      split
      · exact within_createNew counters creates _
      · exact Act.within_pure _

end Sync

end Hook

/-- All collaborators keep to a drift. -/
structure Collaborators.Throughout (d : Drift W) (team : Collaborators W) : Prop where
  others : team.Within d
  notices : ∀ n, (team.notices.publish n).Within d
  provider : team.hooks.Within d

namespace Pass

/-- What takes part in bringing the source to what it asks for keeps to a drift. -/
structure Forward (d : Drift W) (p : Pass W) : Prop where
  others : p.team.Within d
  notices : ∀ n, (p.team.notices.publish n).Within d
  provider : ∀ {scope}, p.source.spec.scope = .ok scope → p.team.hooks.SyncsWithinOn d scope

/-- What takes part in taking the source down keeps to a drift. -/
structure Backward (d : Drift W) (p : Pass W) : Prop where
  secrets : ∀ name, (p.team.secrets.get p.namespace_ name).Within d
  opens : ∀ {scope}, p.source.spec.scope = .ok scope →
    ∀ token, (p.team.hooks.client scope token).Within d
  deletes : ∀ {scope token w w' client}, p.source.spec.scope = .ok scope →
    p.team.hooks.client scope token w = (.ok client, w') → ∀ id, (client.delete id).Within d
  notices : ∀ n, (p.team.notices.publish n).Within d
  counters : ∀ c, (p.team.count c).Within d

variable {p : Pass W}

theorem Forward.of_throughout (throughout : p.team.Throughout d) : p.Forward d where
  others := throughout.others
  notices := throughout.notices
  provider {scope} _ := (throughout.provider.on scope).syncs

theorem Backward.of_throughout (throughout : p.team.Throughout d) : p.Backward d where
  secrets := throughout.others.secrets p.namespace_
  opens {scope} _ := throughout.provider.opens scope
  deletes _ opened := (throughout.provider.clients opened).delete
  notices := throughout.notices
  counters := throughout.others.counters

/-! ## Bringing a source to what it asks for -/

theorem within_syncHook_of_syncs {scope : Scope} (provider : p.team.hooks.SyncsWithinOn d scope)
    (counters : ∀ c, (p.team.count c).Within d) (access : String) (options : Hook.Options)
    (recorded : Option Int) : (p.syncHook scope access options recorded).Within d := by
  intro w
  rcases opened : p.team.hooks.client scope access w with ⟨client, w₁⟩
  have moved := (provider.opens access).moved opened
  rw [syncHook, Act.bind_apply, opened]
  cases client with
  | error e => exact moved
  | ok client =>
    have syncs := provider.clients opened
    have synced : (Hook.sync p.team.count client options recorded).Within d :=
      Hook.within_sync counters (fun id _ => syncs.get id) (syncs.create options)
        fun id _ => syncs.edit id options
    exact d.trans moved (synced w₁)

theorem within_syncHook {scope : Scope} (provider : p.team.hooks.WithinOn d scope)
    (counters : ∀ c, (p.team.count c).Within d) (access : String) (options : Hook.Options)
    (recorded : Option Int) : (p.syncHook scope access options recorded).Within d :=
  within_syncHook_of_syncs provider.syncs counters access options recorded

section Forward

variable (forward : p.Forward d)
include forward

theorem within_proclaim (scope : Scope) (outcome : Hook.Outcome) :
    (p.proclaim scope outcome).Within d := by
  unfold proclaim
  split
  · exact forward.notices _
  · exact Act.within_pure _

/-- **A pass does to the world what its collaborators do**, and deletes no hook. -/
theorem within_converge_of_forward : p.converge.Within d := by
  intro w
  have onHook := converge_onHook forward.others w
  have synced_within := fun {scope} (inScope : p.source.spec.scope = .ok scope) =>
    within_syncHook_of_syncs (forward.provider inScope) forward.others.counters
  generalize (p.converge w).2 = w' at onHook ⊢
  cases onHook with
  | untouched moved kept => exact moved
  | @synced w₃ w₄ scope access options outcome moved inScope synced recorded =>
    have made := (synced_within inScope access options _).moved synced
    exact d.trans moved (d.trans made (within_proclaim forward scope outcome w₄))
  | @failed w₃ w₄ _ scope access options e moved inScope failed left kept =>
    have tried := (synced_within inScope access options _).moved failed
    exact d.trans moved (d.trans tried left)

end Forward

/-! ## Taking a source down -/

section Backward

variable (backward : p.Backward d)
include backward

theorem within_deleteWith {scope : Scope} (inScope : p.source.spec.scope = .ok scope)
    (access : String) (id : Int) : (p.deleteWith scope access id).Within d := by
  intro w
  rcases opened : p.team.hooks.client scope access w with ⟨client, w₁⟩
  have moved := (backward.opens inScope access).moved opened
  rw [deleteWith, Act.bind_apply, opened]
  cases client with
  | error e => cases e <;> exact moved
  | ok client =>
    have within := backward.deletes inScope opened id
    refine d.trans moved (Act.Within.bind (Hook.within_remove backward.counters id within)
      (fun answer => ?_) w₁)
    cases answer with
    | ok gone => exact Act.within_pure _
    | error e => exact Act.within_pure _

theorem within_deleteHook (id : Int) : (p.deleteHook id).Within d := by
  unfold deleteHook
  cases inScope : p.source.spec.scope with
  | error fault => exact Act.within_pure _
  | ok scope =>
    refine (Credential.within_resolve backward.secrets _ _).bind fun answer => ?_
    obtain ⟨token, cache⟩ := answer
    cases token with
    | ok token => exact within_deleteWith backward inScope token id
    | error e => exact Act.within_pure _

theorem within_report (id : Int) (fate : Fate) : (p.report id fate).Within d := by
  cases fate with
  | deleted => exact Act.within_pure _
  | abandoned why => exact (backward.notices _).bind fun _ => Act.within_pure _

/-- **Taking a source down does to the world what its collaborators do**, and neither creates nor
edits a hook. -/
theorem within_finalize_of_backward : p.finalize.Within d := by
  unfold finalize
  dsimp only
  cases p.source.statusOrBlank.webhookId with
  | none => exact Act.within_pure _
  | some id =>
    refine (within_deleteHook backward id).bind fun answer => ?_
    cases answer with
    | error e => exact Act.within_pure _
    | ok fate => exact (within_report backward id fate).bind fun _ => Act.within_pure _

end Backward

/-! ## All collaborators -/

section Throughout

variable (throughout : p.team.Throughout d)
include throughout

/-- A pass does to the world what its collaborators do. -/
theorem within_converge : p.converge.Within d :=
  within_converge_of_forward (.of_throughout throughout)

/-- Taking a source down does to the world what the collaborators do. -/
theorem within_finalize : p.finalize.Within d :=
  within_finalize_of_backward (.of_throughout throughout)

end Throughout

end Pass

end HookRelay

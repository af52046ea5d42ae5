import HookRelay.Proofs.Hook.Store

/-!
# GitLab that stands firm

As long as nobody touches it, GitLab does with one call as with the next: it is up, or it refuses
every call, each with an error of its own. Access may be denied, or the calls may fail; neither
changes a hook. Where a hook was made as it should be, or could not be, the same is attempted with
the same success once more, and nothing new comes of it.

## Main definitions

* `Outage`, `Standing` : the errors with which calls are refused, and how GitLab stands
* `Client.Quiet` : only creating a hook does more to the world than a drift
* `Client.Refuses`, `Provider.Refuses` : calls are refused as the standing says

## Main statements

* `sync_quiet` : nothing new happens unless a hook is created
* `sync_refused` : the error with which a GitLab that refuses ends
* `Store.provider_refuses` : a store that is told to fail refuses
-/

namespace HookRelay.Hook

variable {W : Type}

/-- The errors with which GitLab refuses every call. -/
structure Outage where
  /-- Why no client is handed out, if none is. -/
  client : (accessToken : String) → Option Error
  get : (id : Int) → Error
  create : Options → Error
  edit : (id : Int) → Options → Error

/-- How GitLab stands: whether it refuses every call, and the hooks of the scope. -/
structure Standing where
  outage : Option Outage
  hooks : Held

namespace Standing

/-- The hooks, as long as GitLab is up. -/
def served (s : Standing) : Option Held :=
  match s.outage with
  | none => some s.hooks
  | some _ => none

/-- Whether GitLab refuses, and which hooks there are, whatever their fields. -/
def known (s : Standing) : Option Outage × (Int → Bool) :=
  (s.outage, fun id => (s.hooks id).isSome)

/-- Where as much is known, GitLab refuses as before, and has the same hooks. -/
theorem of_known {now before : Option Standing} {outage : Option Outage} {hooks : Held}
    (same : now.map known = before.map known) (stood : before = some ⟨outage, hooks⟩) :
    ∃ hooks', now = some ⟨outage, hooks'⟩ ∧ ∀ id, (hooks' id).isSome = (hooks id).isSome := by
  rw [stood] at same
  obtain ⟨⟨outage', hooks'⟩, rfl, still⟩ := Option.map_eq_some_iff.1 same
  obtain ⟨rfl, held⟩ := Prod.mk.inj still
  exact ⟨hooks', rfl, congrFun held⟩

end Standing

/-- Only creating a hook does more to the world than a drift. -/
structure Client.Quiet (d : Drift W) (c : Client W) : Prop where
  get : ∀ id, (c.get id).Within d
  edit : ∀ id options, (c.edit id options).Within d
  refused : ∀ {options w w' e}, c.create options w = (.error e, w') → d.rel w w'

/-- Calls are refused as the standing says. -/
structure Client.Refuses (gitlab : W → Option Standing) (c : Client W) : Prop where
  get : ∀ {w ρ hooks} id, gitlab w = some ⟨some ρ, hooks⟩ → (c.get id w).1 = .error (ρ.get id)
  create : ∀ {w ρ hooks} options, gitlab w = some ⟨some ρ, hooks⟩ →
    (c.create options w).1 = .error (ρ.create options)
  edit : ∀ {w ρ hooks} id options, gitlab w = some ⟨some ρ, hooks⟩ →
    (c.edit id options w).1 = .error (ρ.edit id options)

/-- A provider that hands out no clients, or clients whose calls are refused. -/
def Provider.Refuses (σ : Scope) (gitlab : W → Option Standing) (provider : Provider W) : Prop :=
  ∀ {w ρ hooks} token, gitlab w = some ⟨some ρ, hooks⟩ →
    match ρ.client token with
    | some e => (provider.client σ token w).1 = .error e
    | none => ∃ c, (provider.client σ token w).1 = .ok c ∧ c.Refuses gitlab

/-- The error with which `Hook.sync` fails, if every call is refused. -/
def Outage.answer (ρ : Outage) (options : Options) : (recorded : Option Int) → Error
  | none => ρ.create options
  | some id => if (ρ.get id).isNotFound then ρ.create options else ρ.get id

/-! ## Making a hook as it should be -/

section Sync

variable {d : Drift W} {count : Counter → Act W Unit} {client : Client W} {options : Options}
  {w w' : W} (counters : ∀ c, (count c).Within d) (quiet : client.Quiet d)
include counters quiet

theorem createNew_quiet {outcome : Int → Outcome} {e : Error}
    (run : createNew count client options outcome w = (.error e, w')) : d.rel w w' := by
  rw [createNew, Act.bind_apply, counted_apply] at run
  rcases made : client.create options w with ⟨answer, w₁⟩
  rw [made] at run
  cases answer with
  | ok hook => cases run
  | error e' =>
    cases run
    exact d.trans (quiet.refused made) (counters _ w₁)

/-- **Nothing new happens unless a hook is created.** -/
theorem sync_quiet {recorded : Option Int} {answer : Except Error Outcome}
    (run : sync count client options recorded w = (answer, w'))
    (old : ∀ outcome, answer = .ok outcome → outcome.isNew = false) : d.rel w w' := by
  -- creating a hook ends with an error here, for otherwise it would be a new one
  have failed : ∀ {outcome : Int → Outcome} {w₁ : W}, (∀ id, (outcome id).isNew = true) →
      createNew count client options outcome w₁ = (answer, w') → d.rel w₁ w' := by
    intro outcome w₁ new made
    cases answer with
    | error e => exact createNew_quiet counters quiet made
    | ok done =>
      rw [createNew, Act.bind_apply] at made
      rcases tried : counted count "create" (client.create options) w₁ with ⟨hook, w₂⟩
      rw [tried] at made
      cases hook with
      | error e => cases made
      | ok hook =>
        cases made
        have isOld := old _ rfl
        rw [new] at isOld
        cases isOld
  cases recorded with
  | none => exact failed (fun _ => rfl) run
  | some id =>
    rw [sync, Act.bind_apply, counted_apply] at run
    rcases looked : client.get id w with ⟨look, w₁⟩
    rw [looked] at run
    have asked : d.rel w (count (.hookOperation "get" (outcomeOf look)) w₁).2 :=
      d.trans ((quiet.get id).moved looked) (counters _ w₁)
    cases look with
    | ok hook =>
      refine d.trans asked ?_
      refine Act.Within.moved (Act.Within.bind (fun w₂ => ?_) fun answer => ?_) run
      · exact d.trans (quiet.edit id options w₂) (counters _ _)
      · cases answer with
        | ok hook => exact Act.within_pure _
        | error e => exact Act.within_pure _
    | error e =>
      dsimp only at run
      split at run
      · exact d.trans asked (failed (fun _ => rfl) run)
      · cases run
        exact asked

end Sync

section Refused

variable {gitlab : W → Option Standing} {d : Drift W} {count : Counter → Act W Unit}
  {client : Client W} {ρ : Outage} {hooks : Held} {w : W}

/-- **The error with which a GitLab that refuses ends** depends on nothing but the call. -/
theorem sync_refused (same : ∀ {w w'}, d.rel w w' →
      (gitlab w').map Standing.known = (gitlab w).map Standing.known)
    (counters : ∀ c, (count c).Within d) (quiet : client.Quiet d) (refuses : client.Refuses gitlab)
    (standing : gitlab w = some ⟨some ρ, hooks⟩) (options : Options) (recorded : Option Int) :
    (sync count client options recorded w).1 = .error (ρ.answer options recorded) := by
  have created : ∀ {w hooks} (outcome : Int → Outcome), gitlab w = some ⟨some ρ, hooks⟩ →
      (createNew count client options outcome w).1 = .error (ρ.create options) := by
    intro w hooks outcome standing
    rw [createNew, Act.bind_apply, counted_apply, refuses.create options standing]
    rfl
  cases recorded with
  | none => exact created .created standing
  | some id =>
    rw [sync, Act.bind_apply, counted_apply, refuses.get id standing, Outage.answer]
    dsimp only
    split
    · -- GitLab still refuses when the hook is to be created in place of a missing one
      have moved : d.rel w (counted count "get" (client.get id) w).2 := by
        rw [counted_apply]
        exact d.trans (quiet.get id w) (counters _ _)
      rw [counted_apply, refuses.get id standing] at moved
      obtain ⟨hooks', standing', -⟩ := Standing.of_known (same moved) standing
      exact created (.recreated id) standing'
    · rfl

end Refused

/-! ## In memory -/

namespace Store

/-- The errors with which a store refuses every operation, as far as it is told to. -/
def outage (s : Store) : Outage where
  client _ := s.clientError
  get id := (s.mode.error? (some id)).getD (.notFound id)
  create _ := (s.mode.error? none).getD (.refused 500 "")
  edit id _ := (s.mode.error? (some id)).getD (.notFound id)

/-- Every operation of the store is to fail. -/
structure Down (s : Store) : Prop where
  failing : s.mode ≠ .healthy
  all : s.only = none

open Classical in
/-- How a store stands, as long as it does with one operation as with the next. -/
noncomputable def standing (s : Store) : Option Standing :=
  if s.Up then some ⟨none, s.held⟩
  else if s.Down then some ⟨some s.outage, s.held⟩
  else none

variable {W : Type} {part : Part W Store} {s : Store}

theorem Up.standing (up : s.Up) : s.standing = some ⟨none, s.held⟩ := if_pos up

theorem Down.standing (down : s.Down) : s.standing = some ⟨some s.outage, s.held⟩ := by
  have notUp : ¬ s.Up := fun up => down.failing up.healthy
  rw [Store.standing, if_neg notUp, if_pos down]

/-- What a store serves is what it holds while it is up. -/
theorem standing_served (s : Store) : s.standing.bind Standing.served = s.served := by
  by_cases up : s.Up
  · rw [up.standing, up.served]
    rfl
  · rw [served, if_neg up, Store.standing, if_neg up]
    split <;> rfl

theorem down_of_standing {ρ : Outage} {hooks : Held} (h : s.standing = some ⟨some ρ, hooks⟩) :
    s.Down ∧ ρ = s.outage := by
  rw [Store.standing] at h
  split at h
  · cases h
  · split at h
    · cases h
      exact ⟨‹_›, rfl⟩
    · cases h

/-- How a store stands depends on what it is told, and on which hooks there are. -/
theorem known_congr {s' : Store} (mode : s'.mode = s.mode) (only : s'.only = s.only)
    (opens : s'.clientError = s.clientError) (last : s'.lastId = s.lastId)
    (same : ∀ id, (s'.held id).isSome = (s.held id).isSome) :
    s'.standing.map Standing.known = s.standing.map Standing.known := by
  have none_iff : ∀ id, find? id s'.hooks = none ↔ find? id s.hooks = none := fun id => by
    rw [← Option.isNone_iff_eq_none, ← Option.isNone_iff_eq_none, ← Option.not_isSome,
      ← Option.not_isSome]
    exact iff_of_eq (congrArg (fun b => (!b) = true) (same id))
  have up_iff : s'.Up ↔ s.Up := by
    constructor
    · rintro ⟨healthy, opened, free⟩
      refine ⟨mode ▸ healthy, opens ▸ opened, fun id ahead => (none_iff id).1 (free id ?_)⟩
      rwa [last]
    · rintro ⟨healthy, opened, free⟩
      refine ⟨mode ▸ healthy, opens ▸ opened, fun id ahead => (none_iff id).2 (free id ?_)⟩
      rwa [← last]
  have down_iff : s'.Down ↔ s.Down :=
    ⟨fun ⟨failing, all⟩ => ⟨mode ▸ failing, only ▸ all⟩,
      fun ⟨failing, all⟩ => ⟨mode ▸ failing, only ▸ all⟩⟩
  have refuses : s'.outage = s.outage := by rw [outage, outage, mode, opens]
  have held : (fun id => (s'.held id).isSome) = fun id => (s.held id).isSome := funext same
  by_cases up : s.Up
  · rw [(up_iff.2 up).standing, up.standing, Option.map_some, Option.map_some, Standing.known, held]
    rfl
  · by_cases down : s.Down
    · rw [(down_iff.2 down).standing, down.standing, Option.map_some, Option.map_some,
        Standing.known, held, refuses]
      rfl
    · rw [standing, standing, if_neg up, if_neg down, if_neg (mt up_iff.1 up),
        if_neg (mt down_iff.1 down)]

theorem known_edit (id : Int) (o : Options) (s : Store) :
    (edit id o s).2.standing.map Standing.known = s.standing.map Standing.known := by
  cases failing : s.error? .edit (some id) with
  | some e =>
    rw [edit_of_error failing]
    exact known_congr rfl rfl rfl rfl fun _ => rfl
  | none =>
    cases found : s.held id with
    | none =>
      rw [edit_of_missing failing found]
      exact known_congr rfl rfl rfl rfl fun _ => rfl
    | some before =>
      rw [edit_of_found failing found]
      refine known_congr rfl rfl rfl rfl fun other => ?_
      show (find? other (put id o s.hooks)).isSome = _
      by_cases here : other = id
      · rw [here, find?_put_self, found]
        rfl
      · rw [find?_put_of_ne here]
        rfl

/-- A store that refuses every operation answers as it is told to. -/
theorem Down.error? (down : s.Down) (op : Operation) (id : Option Int) :
    ∃ e, s.error? op id = some e ∧ s.mode.error? id = some e := by
  have same : s.error? op id = s.mode.error? id := by simp [Store.error?, down.all]
  have told : (s.mode.error? id).isSome := by
    cases mode : s.mode with
    | healthy => exact absurd mode down.failing
    | unauthorized | forbidden | failing | invalidUrl => rfl
    | notFound => cases id <;> rfl
  obtain ⟨e, told⟩ := Option.isSome_iff_exists.1 told
  exact ⟨e, same.trans told, told⟩

section Part

variable (part) in
theorem client_refuses : (client part).Refuses fun w => (part.get w).standing where
  get {w ρ hooks} id standing := by
    obtain ⟨down, rfl⟩ := down_of_standing standing
    obtain ⟨e, failing, told⟩ := down.error? .get (some id)
    show (get id (part.get w)).1 = .error ((part.get w).outage.get id)
    rw [get_apply, failing]
    simp only [outage, told, Option.getD_some]
  create {w ρ hooks} options standing := by
    obtain ⟨down, rfl⟩ := down_of_standing standing
    obtain ⟨e, failing, told⟩ := down.error? .create none
    show (create options (part.get w)).1 = .error ((part.get w).outage.create options)
    rw [create_of_error failing]
    simp only [outage, told, Option.getD_some]
  edit {w ρ hooks} id options standing := by
    obtain ⟨down, rfl⟩ := down_of_standing standing
    obtain ⟨e, failing, told⟩ := down.error? .edit (some id)
    show (edit id options (part.get w)).1 = .error ((part.get w).outage.edit id options)
    rw [edit_of_error failing]
    simp only [outage, told, Option.getD_some]

/-- **A store that is told to fail refuses.** -/
theorem provider_refuses (part : Part W Store) (σ : Scope) :
    (provider part).Refuses σ fun w => (part.get w).standing := by
  intro w ρ hooks token standing
  obtain ⟨down, rfl⟩ := down_of_standing standing
  have run := provider_apply part σ token w
  cases opens : (part.get w).clientError with
  | some e =>
    rw [opens] at run
    simp only [outage, opens, run]
  | none =>
    rw [opens] at run
    simp only [outage, opens, run]
    exact ⟨_, rfl, client_refuses part⟩

/-! ### Only a new hook counts -/

variable (lawful : part.Lawful)
include lawful

/-- The client of a store changes how it stands only by creating a hook. -/
theorem client_quiet : (client part).Quiet (.fixing fun w => (part.get w).standing.map
    Standing.known) where
  get id w := by
    show ((part.get (part.set (get id (part.get w)).2 w)).standing).map _ = _
    rw [lawful, get_apply]
    exact known_congr rfl rfl rfl rfl fun _ => rfl
  edit id options w := by
    show ((part.get (part.set (edit id options (part.get w)).2 w)).standing).map _ = _
    rw [lawful]
    exact known_edit id options (part.get w)
  refused {options w w' e} run := by
    obtain ⟨answer, rfl⟩ := Prod.mk.inj run
    show ((part.get (part.set (create options (part.get w)).2 w)).standing).map _ = _
    rw [lawful]
    cases failing : (part.get w).error? .create none with
    | some e =>
      rw [create_of_error failing]
      exact known_congr rfl rfl rfl rfl fun _ => rfl
    | none =>
      have created : (create options (part.get w)).1 = .error e := answer
      rw [create_of_healthy failing] at created
      cases created

end Part

end Store

end HookRelay.Hook

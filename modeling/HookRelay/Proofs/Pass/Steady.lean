import HookRelay.Proofs.Credential.Available
import HookRelay.Proofs.Hook.Standing
import HookRelay.Proofs.Pass.Served
import HookRelay.Proofs.Pass.Throughout
import HookRelay.Proofs.Receiver.Plan

/-!
# Where nobody but the pass does anything

If nothing happens around a source but what its passes do, then a pass finds again what the pass
before it found. What there is to find is an outlook: what the collaborators would answer, and how
GitLab stands. Collaborators are steady if their answers depend on the world alone, and if a call
changes the outlook only where it makes something: an adapter, which is listed as it was made, or
a hook.

## Main definitions

* `Replies`, `Outlook` : what there is to find in a world
* `Outlook.Joins` : an adapter was made, and nothing else changed
* `Collaborators.Steady` : only making something changes the outlook
* `Pass.again` : the pass that comes next

## Main statements

* `Pass.AdapterReached.again`, `Pass.HookReached.again` : a pass gets as far as the one before it
* `Pass.syncHook_ok_again`, `Pass.syncHook_error_again` : so does what it does about the hook
-/

namespace HookRelay

open Hook (Standing Outage)

variable {W : Type}

/-! ## What there is to find -/

/-- What the collaborators but GitLab would answer. -/
structure Replies where
  sink : (namespace_ : String) → Destination → Except Sink.Error String
  secret : (namespace_ name : String) → Except String (Option Credential.Data)
  adapters : (namespace_ : String) → Except Receiver.Error (List Receiver)
  adapter : Receiver.Plan → Except Receiver.Error Receiver

/-- What there is to find: what the collaborators would answer, how GitLab stands, and which hooks
it has. -/
structure Outlook extends Replies where
  gitlab : Option (Option Outage × (Int → Bool))

namespace Outlook

/-- Two outlooks that differ in adapters at most. -/
structure Alike (before after : Outlook) : Prop where
  sink : after.sink = before.sink
  secret : after.secret = before.secret
  gitlab : after.gitlab = before.gitlab

theorem Alike.refl (o : Outlook) : o.Alike o := ⟨rfl, rfl, rfl⟩

/-- **The adapter of a plan joins** those that are there: its owner manages it, it is listed as it
is, and nothing else changes. -/
structure Joins (plan : Receiver.Plan) (r : Receiver) (before after : Outlook) : Prop where
  controlled : r.isControlledBy plan.owner.uid = true
  listed : ∀ receivers, before.adapters plan.namespace_ = .ok receivers →
    ∃ front back, receivers = front ++ back ∧
      after.adapters plan.namespace_ = .ok (front ++ r :: back)
  others : before.Alike after

end Outlook

namespace Collaborators

/-- What the collaborators but GitLab would answer in a world. -/
def replies (team : Collaborators W) (w : W) : Replies where
  sink namespace_ destination := (team.sinks.resolve namespace_ destination w).1
  secret namespace_ name := (team.secrets.get namespace_ name w).1
  adapters namespace_ := (team.receivers.list namespace_ w).1
  adapter plan := (team.receivers.create plan w).1

/-- What there is to find in a world. -/
def outlook (team : Collaborators W) (gitlab : W → Option Standing) (w : W) : Outlook where
  toReplies := team.replies w
  gitlab := (gitlab w).map Standing.known

/-- **Collaborators are steady** in a drift that leaves the outlook as it is, if all that they do is
that drift, but for the adapters and the hooks that they make, and for the notices that tell of
them. GitLab serves the hooks of the scope, or it refuses every call. -/
structure Steady (d : Drift W) (σ : Scope) (gitlab : W → Option Standing)
    (team : Collaborators W) : Prop where
  same : ∀ {w w'}, d.rel w w' → team.outlook gitlab w' = team.outlook gitlab w
  sinks : ∀ namespace_ destination, (team.sinks.resolve namespace_ destination).Within d
  secrets : ∀ namespace_ name, (team.secrets.get namespace_ name).Within d
  lists : ∀ namespace_, (team.receivers.list namespace_).Within d
  uncreated : ∀ {plan w w' e}, team.receivers.create plan w = (.error e, w') → d.rel w w'
  created : ∀ {plan w w' r}, team.receivers.create plan w = (.ok r, w') →
    Outlook.Joins plan r (team.outlook gitlab w) (team.outlook gitlab w')
  counters : ∀ c, (team.count c).Within d
  warnings : ∀ n : Notice, n.level = .warning → (team.notices.publish n).Within d
  notices : ∀ n, (team.notices.publish n).Within (.fixing (team.outlook gitlab))
  opens : ∀ token, (team.hooks.client σ token).Within d
  clients : ∀ {token w w' c}, team.hooks.client σ token w = (.ok c, w') → c.Quiet d
  apart : team.hooks.Within (.fixing team.replies)
  serves : team.ServesHooks σ fun w => (gitlab w).bind Standing.served
  refuses : team.hooks.Refuses σ gitlab

theorem Steady.replies {d : Drift W} {σ : Scope} {gitlab : W → Option Standing}
    {team : Collaborators W} (steady : team.Steady d σ gitlab) {w w' : W} (moved : d.rel w w') :
    team.replies w' = team.replies w :=
  congrArg Outlook.toReplies (steady.same moved)

theorem Steady.known {d : Drift W} {σ : Scope} {gitlab : W → Option Standing}
    {team : Collaborators W} (steady : team.Steady d σ gitlab) {w w' : W} (moved : d.rel w w') :
    (gitlab w').map Standing.known = (gitlab w).map Standing.known :=
  congrArg Outlook.gitlab (steady.same moved)

end Collaborators

namespace Pass

/-- The pass that comes next, by another clock reading, where nobody edits the source and the last
pass arrived at a status. -/
def again (p : Pass W) (now : Time.Instant) (st : Source.Status) : Pass W :=
  { p with now, source := { p.source with status := some st } }

variable {d : Drift W} {σ : Scope} {gitlab : W → Option Standing} {p : Pass W}
  (steady : p.team.Steady d σ gitlab) {w w₁ w₂ w₃ w' v : W} {uri : String} {r : Receiver}

/-! ## The adapter -/

theorem ownedReceiver_congr (same : (p.team.replies v).adapters = (p.team.replies w).adapters) :
    (p.ownedReceiver v).1 = (p.ownedReceiver w).1 := by
  cases identified : p.source.metadata.uid with
  | none => rw [ownedReceiver, identified]; rfl
  | some uid =>
    have listed : (p.team.receivers.list p.namespace_ v).1 =
        (p.team.receivers.list p.namespace_ w).1 := congrFun same p.namespace_
    rw [ownedReceiver_eq identified, ownedReceiver_eq identified, listed]

theorem createReceiver_congr {e : Receiver.Error} (failed : (p.createReceiver uri w).1 = .error e)
    (same : (p.team.replies v).adapter = (p.team.replies w).adapter) :
    (p.createReceiver uri v).1 = .error e := by
  unfold createReceiver at failed ⊢
  cases planned : Receiver.plan p.settings p.source uri with
  | error e' =>
    rw [planned] at failed
    exact failed
  | ok plan =>
    have made : (p.team.receivers.create plan v).1 = (p.team.receivers.create plan w).1 :=
      congrFun same plan
    rw [planned] at failed
    dsimp only at failed ⊢
    rw [Act.bind_apply] at failed ⊢
    rw [made]
    cases answer : (p.team.receivers.create plan w).1 with
    | error e' =>
      rw [answer] at failed
      exact failed
    | ok r =>
      rw [answer] at failed
      cases failed

/-- The adapter that was listed last time, or that has been made since, is owned. -/
theorem find?_joined {front back : List Receiver} {uid : String} (controlled : r.isControlledBy uid)
    (unowned : (front ++ back).find? (fun r => r.isControlledBy uid) = none) :
    (front ++ r :: back).find? (fun r => r.isControlledBy uid) = some r := by
  rw [List.find?_append] at unowned ⊢
  rw [(Option.or_eq_none_iff.1 unowned).1, Option.none_or]
  exact List.find?_cons_of_pos controlled

include steady

theorem createReceiver_failed {e : Receiver.Error}
    (failed : p.createReceiver uri w = (.error e, w')) : d.rel w w' := by
  unfold createReceiver at failed
  cases planned : Receiver.plan p.settings p.source uri with
  | error e' =>
    rw [planned] at failed
    cases failed
    exact d.refl w
  | ok plan =>
    rw [planned] at failed
    dsimp only at failed
    rw [Act.bind_apply] at failed
    rcases made : p.team.receivers.create plan w with ⟨answer, w₁⟩
    rw [made] at failed
    cases answer with
    | error e' =>
      cases failed
      exact steady.uncreated made
    | ok r => cases failed

/-- An adapter that is made joins those that are there. -/
theorem createReceiver_joins (made : p.createReceiver uri w = (.ok r, w')) :
    ∃ plan, Receiver.plan p.settings p.source uri = .ok plan ∧
      Outlook.Joins plan r (p.team.outlook gitlab w) (p.team.outlook gitlab w') := by
  obtain ⟨plan, w₁, planned, created, rfl⟩ := createReceiver_ok made
  -- what is counted and told afterwards is no part of the outlook
  have counted := steady.same (steady.counters .adapterCreated w₁)
  have told : p.team.outlook gitlab (p.announce "ReceiveAdapterCreated"
      s!"Created receive adapter {r.name}" (p.team.count .adapterCreated w₁).2).2 =
      p.team.outlook gitlab (p.team.count .adapterCreated w₁).2 := steady.notices _ _
  exact ⟨plan, planned, (told.trans counted) ▸ steady.created created⟩

theorem resolve_again {namespace_ : String} {destination : Destination}
    {answer : Except Sink.Error String}
    (run : p.team.sinks.resolve namespace_ destination w = (answer, w'))
    (same : (p.team.replies v).sink = (p.team.replies w).sink) :
    ∃ v', p.team.sinks.resolve namespace_ destination v = (answer, v') ∧ d.rel v v' :=
  (steady.sinks _ _).run ((congrFun (congrFun same _) _).trans (congrArg Prod.fst run))

variable (now : Time.Instant) (st : Source.Status)

theorem SinkReached.again (h : p.SinkReached w uri w₁)
    (same : (p.team.replies v).sink = (p.team.replies w).sink) :
    ∃ v₁, (p.again now st).SinkReached v uri v₁ ∧ d.rel v v₁ := by
  obtain ⟨v₁, resolved, moved⟩ := resolve_again steady h.resolved same
  exact ⟨v₁, ⟨h.valid, resolved⟩, moved⟩

/-- What the next pass finds when it looks for its adapter. -/
theorem SinkReached.looks_again {answer : Except Receiver.Error (Option Receiver)}
    (h : p.SinkReached w uri w₁) (looked : p.ownedReceiver w₁ = (answer, w₂))
    (same : p.team.replies v = p.team.replies w₂) :
    ∃ v₁ v₂, (p.again now st).SinkReached v uri v₁ ∧ p.ownedReceiver v₁ = (answer, v₂) ∧
      d.rel v v₂ := by
  have found := steady.replies ((steady.sinks _ _).moved h.resolved)
  have listed := steady.replies ((within_ownedReceiver steady.lists).moved looked)
  have before := same.trans listed
  obtain ⟨v₁, sink, moved⟩ := h.again steady now st (congrArg Replies.sink (before.trans found))
  have still := (steady.replies moved).trans before
  obtain ⟨v₂, looked, moved'⟩ := (within_ownedReceiver steady.lists).run
    ((ownedReceiver_congr (congrArg Replies.adapters still)).trans (congrArg Prod.fst looked))
  exact ⟨v₁, v₂, sink, looked, d.trans moved moved'⟩

/-- The adapter of a pass is there when the next one looks for it. -/
theorem Obtains.again (h : p.Obtains uri w r w')
    (same : (p.team.replies v).adapters = (p.team.replies w').adapters) :
    (p.ownedReceiver v).1 = .ok (some r) := by
  cases h with
  | found owned =>
    have listed := steady.same ((within_ownedReceiver steady.lists).moved owned)
    rw [ownedReceiver_congr (same.trans (congrArg (·.adapters) listed)), owned]
  | @created w₁ unowned made =>
    obtain ⟨plan, planned, joins⟩ := createReceiver_joins steady made
    obtain ⟨identified, placed, -, -⟩ := Receiver.plan_for planned
    have here : p.namespace_ = plan.namespace_ := by
      rw [namespace_, Source.namespaceOrEmpty, Cluster.Metadata.namespaceOrEmpty, placed]
      rfl
    -- the first look went through the list that the adapter joined
    have moved := steady.same ((within_ownedReceiver steady.lists).moved unowned)
    have looked := ownedReceiver_eq identified w
    rw [unowned] at looked
    cases listed : (p.team.receivers.list p.namespace_ w).1 with
    | error e =>
      rw [listed] at looked
      cases looked
    | ok receivers =>
      rw [listed] at looked
      have before : (p.team.outlook gitlab w₁).adapters plan.namespace_ = .ok receivers := by
        rw [moved, ← here]
        exact listed
      obtain ⟨front, back, rfl, after⟩ := joins.listed receivers before
      have after : (p.team.receivers.list p.namespace_ v).1 = .ok (front ++ r :: back) := by
        rw [here]
        exact (congrFun same _).trans after
      rw [ownedReceiver_eq identified, after]
      exact congrArg Except.ok (find?_joined joins.controlled (Except.ok.inj looked).symm)

theorem Obtains.alike (h : p.Obtains uri w r w') :
    (p.team.outlook gitlab w).Alike (p.team.outlook gitlab w') := by
  cases h with
  | found owned =>
    rw [steady.same ((within_ownedReceiver steady.lists).moved owned)]
    exact .refl _
  | created unowned made =>
    obtain ⟨plan, -, joins⟩ := createReceiver_joins steady made
    rw [← steady.same ((within_ownedReceiver steady.lists).moved unowned)]
    exact joins.others

/-- On the way to its adapter, a pass makes nothing else. -/
theorem AdapterReached.alike (h : p.AdapterReached w uri r w₂) :
    (p.team.outlook gitlab w).Alike (p.team.outlook gitlab w₂) := by
  obtain ⟨w₁, sink, obtained⟩ := h
  rw [← steady.same ((steady.sinks _ _).moved sink.resolved)]
  exact obtained.alike steady

/-- **The next pass has the same adapter**, which it finds. -/
theorem AdapterReached.again (h : p.AdapterReached w uri r w₂)
    (same : p.team.replies v = p.team.replies w₂) :
    ∃ v₂, (p.again now st).AdapterReached v uri r v₂ ∧ d.rel v v₂ := by
  have sinks : (p.team.replies w₂).sink = (p.team.replies w).sink := (h.alike steady).sink
  obtain ⟨w₁, sink, obtained⟩ := h
  obtain ⟨v₁, sink, moved⟩ := sink.again steady now st ((congrArg (·.sink) same).trans sinks)
  have unchanged : p.team.replies v₁ = p.team.replies v := steady.replies moved
  have listed := obtained.again steady (congrArg (·.adapters) (unchanged.trans same))
  obtain ⟨v₂, owned, looked⟩ := (within_ownedReceiver steady.lists).run listed
  exact ⟨v₂, ⟨v₁, sink, .found owned⟩, d.trans moved looked⟩

theorem AddressReached.again {address : String} (h : p.AddressReached w uri r address w₂)
    (same : p.team.replies v = p.team.replies w₂) :
    ∃ v₂, (p.again now st).AddressReached v uri r address v₂ ∧ d.rel v v₂ := by
  obtain ⟨v₂, adapter, moved⟩ := h.adapter.again steady now st same
  exact ⟨v₂, ⟨adapter, h.ready, h.addressed⟩, moved⟩

/-! ## The tokens -/

theorem resolveAll_again {refs : List (Option SecretKey)}
    {answer : Except Credential.Failure (List String) × Credential.Cache}
    (run : Credential.resolveAll p.team.secrets p.namespace_ refs [] w = (answer, w'))
    (same : (p.team.replies v).secret = (p.team.replies w).secret) :
    ∃ v', Credential.resolveAll p.team.secrets p.namespace_ refs [] v = (answer, v') ∧
      d.rel v v' := by
  have answers : p.team.secrets.answers p.namespace_ v = p.team.secrets.answers p.namespace_ w :=
    congrFun same p.namespace_
  have kept : ∀ name, (p.team.secrets.get p.namespace_ name).Within
      (Drift.fixing (p.team.secrets.answers p.namespace_)) := fun name u =>
    congrFun (congrArg Replies.secret (steady.replies (steady.secrets p.namespace_ name u))) _
  refine (Credential.within_resolveAll (steady.secrets p.namespace_) refs []).run ?_
  rw [Credential.resolveAll_congr kept refs [] answers, run]

/-- **The next pass reads the same tokens**, or finds the same wrong with them. -/
theorem AddressReached.reads_again {address : String}
    {answer : Except Credential.Failure (List String) × Credential.Cache}
    (h : p.AddressReached w uri r address w₂)
    (read : Credential.resolveAll p.team.secrets p.namespace_ (tokenKeys p.source) [] w₂ =
      (answer, w₃)) (same : p.team.replies v = p.team.replies w₃) :
    ∃ v₂ v₃, (p.again now st).AddressReached v uri r address v₂ ∧
      Credential.resolveAll p.team.secrets p.namespace_ (tokenKeys p.source) [] v₂ = (answer, v₃) ∧
      d.rel v v₃ := by
  have unchanged := steady.replies
    ((Credential.within_resolveAll (steady.secrets p.namespace_) _ _).moved read)
  obtain ⟨v₂, adapter, moved⟩ := h.again steady now st (same.trans unchanged)
  have still := (steady.replies moved).trans (same.trans unchanged)
  obtain ⟨v₃, read, moved'⟩ := resolveAll_again steady read (congrArg Replies.secret still)
  exact ⟨v₂, v₃, adapter, read, d.trans moved moved'⟩

theorem HookReached.again {address access secret : String}
    (h : p.HookReached w uri r address access secret w₃)
    (same : p.team.replies v = p.team.replies w₃) :
    ∃ v₃, (p.again now st).HookReached v uri r address access secret v₃ ∧ d.rel v v₃ := by
  obtain ⟨w₂, cache, adapter, tokens⟩ := h
  obtain ⟨v₂, v₃, adapter, tokens, moved⟩ := adapter.reads_again steady now st tokens same
  exact ⟨v₃, ⟨v₂, cache, adapter, tokens⟩, moved⟩

/-- GitLab stands firm until the pass gets to the hook. -/
theorem HookReached.stands {address access secret : String} {standing : Standing}
    (h : p.HookReached w uri r address access secret w₃) (stands : gitlab w = some standing) :
    ∃ standing', gitlab w₃ = some standing' := by
  obtain ⟨w₂, cache, adapter, tokens⟩ := h
  have read := steady.known
    ((Credential.within_resolveAll (steady.secrets p.namespace_) _ _).moved tokens)
  have known := read.trans (adapter.adapter.alike steady).gitlab
  obtain ⟨hooks, stood, -⟩ := Standing.of_known known stands
  exact ⟨_, stood⟩

/-! ## The hook -/

/-- Telling people of a hook is no part of the outlook. -/
theorem outlook_proclaim (scope : Scope) (outcome : Hook.Outcome) (w : W) :
    p.team.outlook gitlab (p.proclaim scope outcome w).2 = p.team.outlook gitlab w := by
  rw [proclaim]
  split
  · exact steady.notices _ w
  · rfl

theorem warned (reason note : String) (w : W) : d.rel w (p.warn reason note w).2 :=
  steady.warnings _ rfl w

section SyncHook

variable {access : String} {options : Hook.Options} {recorded : Option Int}

/-- Nothing new comes of the hook unless one is created. -/
theorem syncHook_quiet {answer : Except Hook.Error Hook.Outcome}
    (run : p.syncHook σ access options recorded w = (answer, w'))
    (old : ∀ outcome, answer = .ok outcome → outcome.isNew = false) : d.rel w w' := by
  rw [syncHook, Act.bind_apply] at run
  rcases opened : p.team.hooks.client σ access w with ⟨client, w₁⟩
  have moved := (steady.opens access).moved opened
  rw [opened] at run
  cases client with
  | error e =>
    cases run
    exact moved
  | ok client =>
    exact d.trans moved (Hook.sync_quiet steady.counters (steady.clients opened) run old)

/-- Whatever happens to the hook, all other collaborators would answer the same. -/
theorem replies_syncHook (w : W) :
    p.team.replies (p.syncHook σ access options recorded w).2 = p.team.replies w := by
  have counters : ∀ c, (p.team.count c).Within (.fixing p.team.replies) := fun c u =>
    steady.replies (steady.counters c u)
  exact within_syncHook (steady.apart.on σ) counters access options recorded w

theorem syncHook_refused {ρ : Outage} {hooks : Hook.Held}
    (standing : gitlab w = some ⟨some ρ, hooks⟩) (access : String) (options : Hook.Options)
    (recorded : Option Int) :
    (p.syncHook σ access options recorded w).1 =
      .error ((ρ.client access).getD (ρ.answer options recorded)) := by
  have opened := steady.refuses access standing
  have moved := steady.opens access w
  rw [syncHook, Act.bind_apply]
  cases refused : ρ.client access with
  | some e =>
    rw [refused] at opened
    rw [opened]
    rfl
  | none =>
    rw [refused] at opened
    obtain ⟨client, handed, refuses⟩ := opened
    rw [handed]
    have quiet : client.Quiet d := steady.clients (Prod.ext handed rfl)
    obtain ⟨hooks', standing', -⟩ := Standing.of_known (steady.known moved) standing
    exact Hook.sync_refused steady.known steady.counters quiet refuses standing' options recorded

/-- **What is made as it should be is so the next time**, and no hook is created then. -/
theorem syncHook_ok_again {standing : Standing} (stands : gitlab w = some standing)
    {outcome : Hook.Outcome}
    (run : p.syncHook σ access options recorded w = (.ok outcome, w'))
    (same : (p.team.outlook gitlab v).gitlab = (p.team.outlook gitlab w').gitlab) :
    ∃ v', p.syncHook σ access options (some outcome.id) v = (.ok (.updated outcome.id), v') ∧
      d.rel v v' := by
  obtain ⟨outage, hooks⟩ := standing
  cases outage with
  | some ρ =>
    -- a GitLab that refuses makes no hook as it should be
    have refused := syncHook_refused steady stands access options recorded
    rw [run] at refused
    cases refused
  | none =>
    have up : (gitlab w).bind Standing.served = some hooks := by rw [stands]; rfl
    obtain ⟨outcome', w'', run', -, left⟩ :=
      syncHook_serves steady.serves up access options recorded
    rw [run] at run'
    cases run'
    obtain ⟨⟨outage, held⟩, stood, served⟩ := Option.bind_eq_some_iff.1 left
    obtain ⟨rfl, rfl⟩ : outage = none ∧
        held = Function.update hooks outcome.id (some options) := by
      cases outage with
      | none => exact ⟨rfl, Option.some.inj served⟩
      | some ρ => cases served
    obtain ⟨hooks', stands', here⟩ := Standing.of_known same stood
    have here : (hooks' outcome.id).isSome := by rw [here, Function.update_self]; rfl
    have up' : (gitlab v).bind Standing.served = some hooks' := by rw [stands']; rfl
    obtain ⟨outcome', v', again, synced, -⟩ :=
      syncHook_serves steady.serves up' access options (some outcome.id)
    cases synced with
    | updated _ =>
      refine ⟨v', again, syncHook_quiet steady again fun outcome' done => ?_⟩
      cases done
      rfl
    | recreated gone fresh =>
      rw [gone] at here
      cases here

/-- **What cannot be made as it should be cannot be so the next time**, for the same reason. -/
theorem syncHook_error_again {standing : Standing} (stands : gitlab w = some standing)
    {e : Hook.Error} (run : p.syncHook σ access options recorded w = (.error e, w'))
    (same : (p.team.outlook gitlab v).gitlab = (p.team.outlook gitlab w).gitlab) :
    ∃ v', p.syncHook σ access options recorded v = (.error e, v') ∧ d.rel v v' := by
  obtain ⟨outage, hooks⟩ := standing
  cases outage with
  | none =>
    have up : (gitlab w).bind Standing.served = some hooks := by rw [stands]; rfl
    obtain ⟨outcome, w'', run', -, -⟩ :=
      syncHook_serves steady.serves up access options recorded
    rw [run] at run'
    cases run'
  | some ρ =>
    have refused := syncHook_refused steady stands access options recorded
    rw [run] at refused
    obtain ⟨hooks', stands', -⟩ := Standing.of_known same stands
    have again := syncHook_refused steady stands' access options recorded
    cases refused
    obtain ⟨v', failed⟩ : ∃ v', p.syncHook σ access options recorded v = (_, v') :=
      ⟨_, Prod.ext again rfl⟩
    exact ⟨v', failed, syncHook_quiet steady failed fun outcome done => by cases done⟩

/-- **The next pass gets to the hook, and fails as this one did.** -/
theorem HookReached.fails_again {address secret : String} {standing : Standing}
    (h : p.HookReached w uri r address access secret w₃) (stands : gitlab w = some standing)
    {e : Hook.Error} (failed : p.syncHook σ access options recorded w₃ = (.error e, w'))
    (same : p.team.outlook gitlab v = p.team.outlook gitlab w') :
    ∃ v₃ v', (p.again now st).HookReached v uri r address access secret v₃ ∧
      p.syncHook σ access options recorded v₃ = (.error e, v') ∧ d.rel v v' := by
  obtain ⟨standing', stands'⟩ := h.stands steady stands
  -- nothing came of the hook, so that the next pass sees what this one saw
  have tried := syncHook_quiet steady failed fun outcome done => by cases done
  have before := same.trans (steady.same tried)
  obtain ⟨v₃, tokens, moved⟩ := h.again steady now st (congrArg Outlook.toReplies before)
  have found := congrArg Outlook.gitlab ((steady.same moved).trans before)
  obtain ⟨v', failed, moved'⟩ := syncHook_error_again steady stands' failed found
  exact ⟨v₃, v', tokens, failed, d.trans moved moved'⟩

/-- **The next pass gets to the hook, and writes it.** -/
theorem HookReached.writes_again {address secret : String} {standing : Standing}
    (h : p.HookReached w uri r address access secret w₃) (stands : gitlab w = some standing)
    {outcome : Hook.Outcome} (synced : p.syncHook σ access options recorded w₃ = (.ok outcome, w'))
    (same : p.team.outlook gitlab v = p.team.outlook gitlab w') :
    ∃ v₃ v', (p.again now st).HookReached v uri r address access secret v₃ ∧
      p.syncHook σ access options (some outcome.id) v₃ = (.ok (.updated outcome.id), v') ∧
      d.rel v v' := by
  obtain ⟨standing', stands'⟩ := h.stands steady stands
  have made : p.team.replies w' = p.team.replies w₃ := by
    rw [← replies_syncHook steady w₃, synced]
  obtain ⟨v₃, tokens, moved⟩ :=
    h.again steady now st ((congrArg Outlook.toReplies same).trans made)
  have found := congrArg Outlook.gitlab ((steady.same moved).trans same)
  obtain ⟨v', synced, moved'⟩ := syncHook_ok_again steady stands' synced found
  exact ⟨v₃, v', tokens, synced, d.trans moved moved'⟩

end SyncHook

end Pass

end HookRelay

import HookRelay.Pass.Converge
import HookRelay.Pass.Finalize
import HookRelay.Proofs.World.Simulation

/-!
# Passes on worlds that stand for one another

A pass works only through its collaborators. Where the collaborators on one world answer as others
do on another world, and keep the worlds related, so does every pass, whether it brings a source to
what it asks for or takes it down. A pass hands tokens on without looking at them, so the tokens
that the two worlds hold need not be the same, if GitLab does not tell them apart.

## Main definitions

* `Hook.Client.Matches`, `Collaborators.Matches` : collaborators answer as others do, to tokens
  that are alike
* `Hook.Client.Simulates`, `Collaborators.Simulates` : collaborators answer as others do
* `Pass.through` : a pass that works through other collaborators

## Main statements

* `Pass.matches_converge`, `Pass.matches_finalize` : so do passes
* `Pass.simulates_converge`, `Pass.simulates_finalize` : the same where tokens are equal
-/

namespace HookRelay

variable {S W α : Type} {rel : S → W → Prop} {tok : String → String → Prop}

namespace Hook

/-- A client answers as another one does, also where the fields of a hook carry tokens that are
alike. -/
structure Client.Matches (rel : S → W → Prop) (tok : String → String → Prop) (c' : Client S)
    (c : Client W) : Prop where
  get : ∀ id, (c'.get id).Simulates rel (c.get id)
  create : ∀ (o : Options) {token' token}, tok token' token →
    (c'.create { o with token := token' }).Simulates rel (c.create { o with token := token })
  edit : ∀ id (o : Options) {token' token}, tok token' token →
    (c'.edit id { o with token := token' }).Simulates rel (c.edit id { o with token := token })
  delete : ∀ id, (c'.delete id).Simulates rel (c.delete id)

/-- A provider answers as another one does to tokens that are alike, and hands out clients that
do. -/
def Provider.Matches (rel : S → W → Prop) (tok : String → String → Prop) (provider' : Provider S)
    (provider : Provider W) : Prop :=
  ∀ (scope : Scope) {token' token}, tok token' token →
    (provider'.client scope token').Matches rel (Likewise (Client.Matches rel tok))
      (provider.client scope token)

/-- A client answers as another one does. -/
structure Client.Simulates (rel : S → W → Prop) (c' : Client S) (c : Client W) : Prop where
  get : ∀ id, (c'.get id).Simulates rel (c.get id)
  create : ∀ options, (c'.create options).Simulates rel (c.create options)
  edit : ∀ id options, (c'.edit id options).Simulates rel (c.edit id options)
  delete : ∀ id, (c'.delete id).Simulates rel (c.delete id)

theorem Client.Simulates.toMatches {c' : Client S} {c : Client W} (h : c'.Simulates rel c) :
    c'.Matches rel Eq c where
  get := h.get
  create o token' token same := by
    subst same
    exact h.create _
  edit id o token' token same := by
    subst same
    exact h.edit id _
  delete := h.delete

/-- Clients are handed out that answer alike, or are refused alike. -/
inductive Handed (rel : S → W → Prop) :
    Except Error (Client S) → Except Error (Client W) → Prop where
  | client {c' : Client S} {c : Client W} (alike : c'.Simulates rel c) :
      Handed rel (.ok c') (.ok c)
  | refused (e : Error) : Handed rel (.error e) (.error e)

/-- A provider answers as another one does, and hands out clients that do. -/
def Provider.Simulates (rel : S → W → Prop) (provider' : Provider S) (provider : Provider W) :
    Prop :=
  ∀ (scope : Scope) (token : String) ⦃s : S⦄ ⦃w : W⦄, rel s w →
    Handed rel (provider'.client scope token s).1 (provider.client scope token w).1 ∧
      rel (provider'.client scope token s).2 (provider.client scope token w).2

theorem Provider.Simulates.toMatches {provider' : Provider S} {provider : Provider W}
    (h : provider'.Simulates rel provider) : provider'.Matches rel Eq provider := by
  intro scope token' token same s w related
  subst same
  obtain ⟨handed, moved⟩ := h scope token' related
  refine ⟨?_, moved⟩
  generalize (provider'.client scope token' s).1 = answer' at handed ⊢
  generalize (provider.client scope token' w).1 = answer at handed ⊢
  cases handed with
  | client alike => exact .ok alike.toMatches
  | refused e => exact .error e

section Sync

variable {count' : Counter → Act S Unit} {count : Counter → Act W Unit}
  (counters : ∀ n, (count' n).Simulates rel (count n))
include counters

theorem simulates_counted (operation : String) {a' : Act S (Except Error α)}
    {a : Act W (Except Error α)} (h : a'.Simulates rel a) :
    (counted count' operation a').Simulates rel (counted count operation a) :=
  h.bind fun _ => (counters _).bind fun _ => .pure rfl

/-- Removing a hook asks of a client only that it delete. -/
theorem simulates_remove_of {client' : Client S} {client : Client W} {id : Int}
    (deletes : (client'.delete id).Simulates rel (client.delete id)) :
    (remove count' client' id).Simulates rel (remove count client id) := by
  refine (simulates_counted counters "delete" deletes).bind fun answer => ?_
  cases answer with
  | ok u => exact .pure rfl
  | error e =>
    dsimp only
    split
    · exact .pure rfl
    · exact .pure rfl

theorem simulates_remove {client' : Client S} {client : Client W}
    (alike : client'.Simulates rel client) (id : Int) :
    (remove count' client' id).Simulates rel (remove count client id) :=
  simulates_remove_of counters (alike.delete id)

variable {client' : Client S} {client : Client W} (alike : client'.Matches rel tok client)
  {token' token : String} (tokens : tok token' token)
include alike tokens

theorem matches_createNew (o : Options) (outcome : Int → Outcome) :
    (createNew count' client' { o with token := token' } outcome).Simulates rel
      (createNew count client { o with token := token } outcome) := by
  refine (simulates_counted counters "create" (alike.create o tokens)).bind fun answer => ?_
  cases answer with
  | ok hook => exact .pure rfl
  | error e => exact .pure rfl

theorem matches_overwrite (o : Options) (id : Int) :
    (overwrite count' client' { o with token := token' } id).Simulates rel
      (overwrite count client { o with token := token } id) := by
  refine (simulates_counted counters "edit" (alike.edit id o tokens)).bind fun answer => ?_
  cases answer with
  | ok hook => exact .pure rfl
  | error e => exact .pure rfl

theorem matches_sync (o : Options) (recorded : Option Int) :
    (sync count' client' { o with token := token' } recorded).Simulates rel
      (sync count client { o with token := token } recorded) := by
  cases recorded with
  | none => exact matches_createNew counters alike tokens o _
  | some id =>
    refine (simulates_counted counters "get" (alike.get id)).bind fun answer => ?_
    cases answer with
    | ok hook => exact matches_overwrite counters alike tokens o id
    | error e =>
      dsimp only
      split
      · exact matches_createNew counters alike tokens o _
      · exact .pure rfl

end Sync

end Hook

/-- Collaborators answer as others do while a source is looked at: its tokens are alike, and GitLab
does not tell them apart. -/
structure Collaborators.Matches (rel : S → W → Prop) (tok : String → String → Prop) (s : Source)
    (team' : Collaborators S) (team : Collaborators W) : Prop where
  secrets : ∀ name, (team'.secrets.get s.namespaceOrEmpty name).Matches rel
    (Likewise (Credential.Alike tok (Pass.tokenKeys s) name))
    (team.secrets.get s.namespaceOrEmpty name)
  hooks : team'.hooks.Matches rel tok team.hooks
  lists : ∀ namespace_,
    (team'.receivers.list namespace_).Simulates rel (team.receivers.list namespace_)
  creates : ∀ plan, (team'.receivers.create plan).Simulates rel (team.receivers.create plan)
  sinks : ∀ namespace_ destination,
    (team'.sinks.resolve namespace_ destination).Simulates rel
      (team.sinks.resolve namespace_ destination)
  notices : ∀ n, (team'.notices.publish n).Simulates rel (team.notices.publish n)
  counters : ∀ n, (team'.count n).Simulates rel (team.count n)

/-- Collaborators answer as others do. -/
structure Collaborators.Simulates (rel : S → W → Prop) (team' : Collaborators S)
    (team : Collaborators W) : Prop where
  secrets : ∀ namespace_ name,
    (team'.secrets.get namespace_ name).Simulates rel (team.secrets.get namespace_ name)
  hooks : team'.hooks.Simulates rel team.hooks
  lists : ∀ namespace_,
    (team'.receivers.list namespace_).Simulates rel (team.receivers.list namespace_)
  creates : ∀ plan, (team'.receivers.create plan).Simulates rel (team.receivers.create plan)
  sinks : ∀ namespace_ destination,
    (team'.sinks.resolve namespace_ destination).Simulates rel
      (team.sinks.resolve namespace_ destination)
  notices : ∀ n, (team'.notices.publish n).Simulates rel (team.notices.publish n)
  counters : ∀ n, (team'.count n).Simulates rel (team.count n)

theorem Collaborators.Simulates.toMatches {team' : Collaborators S} {team : Collaborators W}
    (h : team'.Simulates rel team) (s : Source) : team'.Matches rel Eq s team where
  secrets name := by
    refine (h.secrets s.namespaceOrEmpty name).mono fun {answer' answer} same => ?_
    subst same
    exact .refl (fun found ref _ _ => .refl (fun _ => rfl) _) answer'
  hooks := h.hooks.toMatches
  lists := h.lists
  creates := h.creates
  sinks := h.sinks
  notices := h.notices
  counters := h.counters

namespace Pass

/-- A pass that works through other collaborators. -/
def through (p : Pass W) (team' : Collaborators S) : Pass S :=
  ⟨team', p.settings, p.now, p.source⟩

section Matches

variable {p : Pass W} {team' : Collaborators S} (alike : team'.Matches rel tok p.source p.team)
include alike

/-! ## The hook -/

theorem matches_syncHook (scope : Scope) {access' access token' token : String}
    (accesses : tok access' access) (tokens : tok token' token) (o : Hook.Options)
    (recorded : Option Int) :
    ((p.through team').syncHook scope access' { o with token := token' } recorded).Simulates rel
      (p.syncHook scope access { o with token := token } recorded) := by
  refine (alike.hooks scope accesses).bind fun answers => ?_
  cases answers with
  | ok both => exact Hook.matches_sync alike.counters both tokens o recorded
  | error e => exact .pure rfl

theorem matches_judgeHook (scope : Scope) (st : Source.Status)
    (answer : Except Hook.Error Hook.Outcome) :
    ((p.through team').judgeHook scope st answer).Simulates rel (p.judgeHook scope st answer) := by
  cases answer with
  | ok outcome =>
    unfold judgeHook
    dsimp only
    split
    · exact (alike.notices _).bind fun _ => .pure rfl
    · exact .pure rfl
  | error e =>
    unfold judgeHook
    dsimp only
    split
    · exact (alike.notices _).bind fun _ => .pure rfl
    · exact .pure rfl

theorem matches_configureHook (address : String) {access' access secret' secret : String}
    (accesses : tok access' access) (tokens : tok secret' secret) (st : Source.Status) :
    ((p.through team').configureHook address access' secret' st).Simulates rel
      (p.configureHook address access secret st) := by
  unfold configureHook
  cases inScope : p.source.spec.scope with
  | error fault => simpa only [through, inScope] using .pure rfl
  | ok scope =>
    simp only [through, inScope]
    exact (matches_syncHook alike scope accesses tokens (p.hookOptions address "") _).bind
      fun answer => matches_judgeHook alike scope st answer

/-! ## The tokens -/

theorem matches_awaitTokens (reason : String) (e : Credential.Failure) (st : Source.Status) :
    ((p.through team').awaitTokens reason e st).Simulates rel (p.awaitTokens reason e st) :=
  (alike.notices _).bind fun _ => .pure rfl

theorem matches_judgeTokens (st : Source.Status) (e : Credential.Failure) :
    ((p.through team').judgeTokens st e).Simulates rel (p.judgeTokens st e) := by
  cases e with
  | secretNotFound name => exact matches_awaitTokens alike _ _ st
  | keyNotFound name key => exact matches_awaitTokens alike _ _ st
  | notText name key => exact matches_awaitTokens alike _ _ st
  | store name cause => exact .pure rfl

variable (blank : tok "" "")
include blank

theorem matches_useTokens (address : String) (st : Source.Status) :
    ((p.through team').useTokens address st).Simulates rel (p.useTokens address st) := by
  refine (Credential.matches_resolveAll alike.secrets blank (List.Subset.refl _) .empty).bind
    fun {r' r} answers => ?_
  obtain ⟨tokens', known'⟩ := r'
  obtain ⟨tokens, known⟩ := r
  cases answers.1 with
  | error e => exact matches_judgeTokens alike st e
  | ok tokens =>
    have nth := Credential.alike_getD tokens blank
    exact matches_configureHook alike address (nth 0) (nth 1) st

/-! ## The receive adapter -/

theorem matches_useReceiver (st : Source.Status) (r : Receiver) :
    ((p.through team').useReceiver st r).Simulates rel (p.useReceiver st r) := by
  unfold useReceiver
  split
  · exact .pure rfl
  · cases r.address with
    | none => exact .pure rfl
    | some address => exact matches_useTokens alike blank address _

omit blank in
theorem matches_ownedReceiver :
    (p.through team').ownedReceiver.Simulates rel p.ownedReceiver := by
  unfold ownedReceiver
  cases identified : p.source.metadata.uid with
  | none => simpa only [through, identified] using .pure rfl
  | some uid =>
    simp only [through, identified]
    refine (alike.lists p.namespace_).bind fun found => ?_
    cases found with
    | error e => exact .pure rfl
    | ok receivers => exact .pure rfl

omit blank in
theorem matches_createReceiver (uri : String) :
    ((p.through team').createReceiver uri).Simulates rel (p.createReceiver uri) := by
  unfold createReceiver
  cases planned : Receiver.plan p.settings p.source uri with
  | error e => simpa only [through, planned] using .pure rfl
  | ok plan =>
    simp only [through, planned]
    refine (alike.creates plan).bind fun made => ?_
    cases made with
    | error e => exact .pure rfl
    | ok r =>
      exact (alike.counters _).bind fun _ => (alike.notices _).bind fun _ => .pure rfl

theorem matches_deploy (uri : String) (st : Source.Status) :
    ((p.through team').deploy uri st).Simulates rel (p.deploy uri st) := by
  refine (matches_ownedReceiver alike).bind fun owned => ?_
  obtain e | _ | r := owned
  · exact .pure rfl
  · refine (matches_createReceiver alike uri).bind fun made => ?_
    cases made with
    | error e => exact .pure rfl
    | ok r => exact matches_useReceiver alike blank st r
  · exact matches_useReceiver alike blank st r

/-! ## A whole pass -/

theorem matches_provideSink (st : Source.Status) :
    ((p.through team').provideSink st).Simulates rel (p.provideSink st) := by
  refine (alike.sinks p.namespace_ p.source.spec.sink).bind fun resolved => ?_
  cases resolved with
  | error e =>
    dsimp only
    split
    · exact .pure rfl
    · exact .pure rfl
  | ok uri => exact matches_deploy alike blank uri _

theorem matches_run (st : Source.Status) :
    ((p.through team').run st).Simulates rel (p.run st) := by
  unfold run
  cases checked : check p.source with
  | error e => simpa only [through, checked] using .pure rfl
  | ok u =>
    simp only [through, checked]
    exact matches_provideSink alike blank _

/-- **A pass answers as it would through collaborators whose tokens are alike.** -/
theorem matches_converge : (p.through team').converge.Simulates rel p.converge :=
  (matches_run alike blank _).bind fun _ => .pure rfl

/-! ## Taking a source down -/

omit blank

theorem matches_deleteThrough {client' : Hook.Client S} {client : Hook.Client W}
    (both : client'.Matches rel tok client) (id : Int) :
    ((p.through team').deleteThrough client' id).Simulates rel (p.deleteThrough client id) := by
  refine (Hook.simulates_remove_of alike.counters (both.delete id)).bind fun answer => ?_
  cases answer with
  | ok there => exact .pure rfl
  | error e => exact .pure rfl

theorem matches_deleteWith (scope : Scope) {access' access : String}
    (accesses : tok access' access) (id : Int) :
    ((p.through team').deleteWith scope access' id).Simulates rel
      (p.deleteWith scope access id) := by
  refine (alike.hooks scope accesses).bind fun answers => ?_
  cases answers with
  | ok both => exact matches_deleteThrough alike both id
  | error e =>
    cases e with
    | invalidUrl text => exact .pure rfl
    | notFound _ | denied _ _ | refused _ _ | transport _ => exact .pure rfl

theorem matches_deleteHook (id : Int) :
    ((p.through team').deleteHook id).Simulates rel (p.deleteHook id) := by
  unfold deleteHook
  cases inScope : p.source.spec.scope with
  | error fault => simpa only [through, inScope] using .pure rfl
  | ok scope =>
    simp only [through, inScope]
    have refers : some p.source.spec.accessToken ∈ tokenKeys p.source := List.mem_cons_self ..
    refine (Credential.matches_resolve alike.secrets refers .empty).bind fun {r' r} answers => ?_
    obtain ⟨token', known'⟩ := r'
    obtain ⟨token, known⟩ := r
    cases answers.1 with
    | ok tokens => exact matches_deleteWith alike scope tokens id
    | error e => exact .pure rfl

theorem matches_report (id : Int) (fate : Fate) :
    ((p.through team').report id fate).Simulates rel (p.report id fate) := by
  cases fate with
  | deleted => exact .pure rfl
  | abandoned why => exact (alike.notices _).bind fun _ => .pure rfl

/-- **A source is taken down as it would be through collaborators whose tokens are alike.** -/
theorem matches_finalize : (p.through team').finalize.Simulates rel p.finalize := by
  unfold finalize
  cases recorded : p.source.statusOrBlank.webhookId with
  | none => simpa only [through, recorded] using .pure rfl
  | some id =>
    simp only [through, recorded]
    refine (matches_deleteHook alike id).bind fun answer => ?_
    cases answer with
    | error e => exact .pure rfl
    | ok fate => exact (matches_report alike id fate).bind fun _ => .pure rfl

end Matches

section Simulates

variable {p : Pass W} {team' : Collaborators S} (alike : team'.Simulates rel p.team)
include alike

/-- **A pass answers as it would through other collaborators**, if these answer alike. -/
theorem simulates_converge : (p.through team').converge.Simulates rel p.converge :=
  matches_converge (alike.toMatches p.source) rfl

/-- **A source is taken down as it would be through other collaborators**, if these answer
alike. -/
theorem simulates_finalize : (p.through team').finalize.Simulates rel p.finalize :=
  matches_finalize (alike.toMatches p.source)

end Simulates

end Pass

end HookRelay

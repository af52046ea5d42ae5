import HookRelay.Proofs.Pass.Calls
import HookRelay.Proofs.Pass.Throughout

/-!
# The order of a pass

What a pass asks of its collaborators is recorded, and every entry of the record has to be due: the
answers on which it rests stand before it. The sink is asked for first; the adapters are listed once
it has an address; one is created if none of those listed is the source's own; secrets are read once
the adapter is ready and has an address; and GitLab is asked once all tokens are known, for a hook
with that address and that token.

What is known from a record stays known while it grows. Hence each stage of a pass is a drift of the
record: what it adds is due, as long as what the stage before found out is known.

## Main definitions

* `Owns`, `Addressed`, `Known`, `Equipped` : what is known from the calls so far
* `Due`, `InOrder` : what may be asked next, and records in which everything was due
* `orderly` : the drift of a record to which only adds what is due

## Main statements

* `AdapterReached.logged`, `HookReached.logged` : what the stages of a pass find out
* `Ends.inOrder` : whatever exit a pass takes, its record is in order
-/

namespace HookRelay.Pass

variable {W : Type} (p : Pass W)

/-! ## What is known from the calls so far -/

/-- **The source has the adapter `r`**: of those listed it is the first that the source manages, or
it was created by the plan of the source. -/
inductive Owns (log : List Call) (r : Receiver) : Prop where
  | listed {uid : String} {receivers : List Receiver}
      (identified : p.source.metadata.uid = some uid)
      (listed : .listAdapters p.namespace_ (.ok receivers) ∈ log)
      (first : receivers.find? (·.isControlledBy uid) = some r)
  | created {uri : String} {plan : Receiver.Plan}
      (sink : .resolveSink p.namespace_ p.source.spec.sink (.ok uri) ∈ log)
      (planned : Receiver.plan p.settings p.source uri = .ok plan)
      (made : .createAdapter plan (.ok r) ∈ log)

/-- The adapter of the source is ready, and takes deliveries at `address`. -/
def Addressed (log : List Call) (address : String) : Prop :=
  ∃ r, p.Owns log r ∧ r.ready = true ∧ r.address = some address

/-- **The token of a reference was read.** An absent reference stands for an empty token. -/
inductive Known (log : List Call) : Option SecretKey → String → Prop where
  | absent : Known log none ""
  | read {ref : SecretKey} {found : Option Credential.Data} {token : String}
      (read : .readSecret p.namespace_ ref.name (.ok found) ∈ log)
      (text : Credential.tokenOf ref found = .ok token) : Known log (some ref) token

/-- All is known that a hook needs: where it delivers to, and both tokens. -/
structure Equipped (log : List Call) (address access secret : String) : Prop where
  addressed : p.Addressed log address
  access : p.Known log (some p.source.spec.accessToken) access
  secret : p.Known log p.source.spec.secretToken secret

/-- GitLab handed out a client for the scope of the source and its `accessToken`. -/
def Opened (log : List Call) (address secret : String) : Prop :=
  ∃ scope access, p.source.spec.scope = .ok scope ∧ p.Equipped log address access secret ∧
    .openClient scope access none ∈ log

/-- Somebody is told by a notice, or something is counted. -/
def Call.isRemark : Call → Bool
  | publish _ | count _ => true
  | _ => false

/-- **What may be asked next**, after the calls so far. -/
inductive Due : List Call → Call → Prop where
  /-- The sink is asked for first, if the source is valid. -/
  | resolveSink {answer : Except Sink.Error String} (valid : check p.source = .ok ()) :
      Due [] (.resolveSink p.namespace_ p.source.spec.sink answer)
  /-- Once the sink has an address, the adapters are listed, if the source can own one. -/
  | listAdapters {uri uid : String} {answer : Except Receiver.Error (List Receiver)}
      (identified : p.source.metadata.uid = some uid) :
      Due [.resolveSink p.namespace_ p.source.spec.sink (.ok uri)]
        (.listAdapters p.namespace_ answer)
  /-- An adapter is created if none of those listed is the source's own. -/
  | createAdapter {uri uid : String} {receivers : List Receiver} {plan : Receiver.Plan}
      {answer : Except Receiver.Error Receiver} (identified : p.source.metadata.uid = some uid)
      (unowned : ∀ r ∈ receivers, r.isControlledBy uid = false)
      (planned : Receiver.plan p.settings p.source uri = .ok plan) :
      Due [.listAdapters p.namespace_ (.ok receivers),
        .resolveSink p.namespace_ p.source.spec.sink (.ok uri)] (.createAdapter plan answer)
  /-- Secrets are read once the adapter is ready and has an address. -/
  | readSecret {log : List Call} {address : String} {ref : SecretKey}
      {answer : Except String (Option Credential.Data)} (addressed : p.Addressed log address)
      (referred : some ref ∈ tokenKeys p.source) :
      Due log (.readSecret p.namespace_ ref.name answer)
  /-- A client is asked for once all tokens are known. -/
  | openClient {log : List Call} {address access secret : String} {scope : Scope}
      {refusal : Option Hook.Error} (equipped : p.Equipped log address access secret)
      (inScope : p.source.spec.scope = .ok scope) : Due log (.openClient scope access refusal)
  /-- The client is asked for the recorded hook only. -/
  | getHook {log : List Call} {address secret : String} {id : Int}
      {answer : Except Hook.Error Hook.Reported} (opened : p.Opened log address secret)
      (recorded : p.source.statusOrBlank.webhookId = some id) : Due log (.getHook id answer)
  /-- A hook that is created has the address of the adapter, the token of deliveries and the
  settings of the source. -/
  | createHook {log : List Call} {address secret : String}
      {answer : Except Hook.Error Hook.Reported} (opened : p.Opened log address secret) :
      Due log (.createHook (p.hookOptions address secret) answer)
  /-- So has the recorded hook when it is written. -/
  | editHook {log : List Call} {address secret : String} {id : Int}
      {answer : Except Hook.Error Hook.Reported} (opened : p.Opened log address secret)
      (recorded : p.source.statusOrBlank.webhookId = some id) :
      Due log (.editHook id (p.hookOptions address secret) answer)
  /-- Somebody may be told at any time. -/
  | remark {log : List Call} {c : Call} (remark : c.isRemark = true) : Due log c

/-- Every call of a record, the latest first, was due after those before it. -/
def InOrder : List Call → Prop
  | [] => True
  | c :: log => p.Due log c ∧ InOrder log

variable {p}

/-! ## What is known stays known -/

section Growth

variable {log log' : List Call} (grown : log ⊆ log')
include grown

theorem Owns.mono {r : Receiver} (h : p.Owns log r) : p.Owns log' r := by
  cases h with
  | listed identified listed first => exact .listed identified (grown listed) first
  | created sink planned made => exact .created (grown sink) planned (grown made)

theorem Addressed.mono {address : String} (h : p.Addressed log address) :
    p.Addressed log' address := by
  obtain ⟨r, owns, ready, addressed⟩ := h
  exact ⟨r, owns.mono grown, ready, addressed⟩

theorem Known.mono {ref : Option SecretKey} {token : String} (h : p.Known log ref token) :
    p.Known log' ref token := by
  cases h with
  | absent => exact .absent
  | read read text => exact .read (grown read) text

theorem Equipped.mono {address access secret : String}
    (h : p.Equipped log address access secret) : p.Equipped log' address access secret :=
  ⟨h.addressed.mono grown, h.access.mono grown, h.secret.mono grown⟩

theorem Opened.mono {address secret : String} (h : p.Opened log address secret) :
    p.Opened log' address secret := by
  obtain ⟨scope, access, inScope, equipped, opened⟩ := h
  exact ⟨scope, access, inScope, equipped.mono grown, grown opened⟩

end Growth

/-- A fact about records that growth leaves true. -/
def Lasting (fact : List Call → Prop) : Prop :=
  ∀ log log' : List Call, log ⊆ log' → fact log → fact log'

variable (p) in
/-- What may happen to a record once a lasting fact is known: what is added is due. -/
def orderly {fact : List Call → Prop} (lasting : Lasting fact) : Drift (W × List Call) where
  rel s s' := s.2 ⊆ s'.2 ∧ (fact s.2 → p.InOrder s.2 → p.InOrder s'.2)
  refl s := ⟨List.Subset.refl _, fun _ inOrder => inOrder⟩
  trans := by
    rintro s s₁ s₂ ⟨grown₁, ordered₁⟩ ⟨grown₂, ordered₂⟩
    refine ⟨List.Subset.trans grown₁ grown₂, fun known inOrder => ?_⟩
    exact ordered₂ (lasting _ _ grown₁ known) (ordered₁ known inOrder)

section Orderly

variable {fact : List Call → Prop} {lasting : Lasting fact} {α : Type}

theorem recorded_orderly {call : α → Call}
    (due : ∀ log answer, fact log → p.Due log (call answer)) (a : Act W α) :
    (a.recorded call).Within (p.orderly lasting) := fun s =>
  ⟨List.subset_cons_self _ _, fun known inOrder => ⟨due s.2 (a s.1).1 known, inOrder⟩⟩

theorem count_orderly (c : Counter) :
    (p.recorded.team.count c).Within (p.orderly lasting) :=
  recorded_orderly (fun _ _ _ => .remark rfl) (p.team.count c)

theorem publish_orderly (n : Notice) :
    (p.recorded.team.notices.publish n).Within (p.orderly lasting) :=
  recorded_orderly (fun _ _ _ => .remark rfl) (p.team.notices.publish n)

theorem lasting_true : Lasting fun _ => True := fun _ _ _ known => known

variable (p) in
theorem lasting_addressed (address : String) : Lasting fun log => p.Addressed log address :=
  fun _ _ grown known => known.mono grown

variable (p) in
theorem lasting_opened (address secret : String) : Lasting fun log => p.Opened log address secret :=
  fun _ _ grown known => known.mono grown

end Orderly

/-! ## The adapter -/

variable {s s' : W × List Call} {w : W} {st : Source.Status}

theorem log_of_recorded {α : Type} {call : α → Call} {a : Act W α} {answer : α}
    (run : a.recorded call s = (answer, s')) : s'.2 = call answer :: s.2 := by
  cases run
  rfl

/-- The sink is the first that is asked for. -/
theorem logged_sink {answer : Except Sink.Error String} (valid : check p.source = .ok ())
    (run : p.recorded.team.sinks.resolve p.namespace_ p.source.spec.sink (w, []) = (answer, s')) :
    s'.2 = [.resolveSink p.namespace_ p.source.spec.sink answer] ∧ p.InOrder s'.2 := by
  have log : s'.2 = [.resolveSink p.namespace_ p.source.spec.sink answer] := log_of_recorded run
  rw [log]
  exact ⟨rfl, .resolveSink valid, trivial⟩

/-- Looking for the adapter lists all of them, unless the source can own none. -/
theorem logged_owned {found : Except Receiver.Error (Option Receiver)}
    (run : p.recorded.ownedReceiver s = (found, s')) :
    (p.source.metadata.uid = none ∧ found = .ok none ∧ s' = s) ∨
      ∃ uid answer, p.source.metadata.uid = some uid ∧
        s'.2 = .listAdapters p.namespace_ answer :: s.2 ∧
        found = answer.map (List.find? (·.isControlledBy uid)) := by
  rw [ownedReceiver] at run
  cases identified : p.source.metadata.uid with
  | none =>
    rw [show p.recorded.source.metadata.uid = none from identified] at run
    cases run
    exact .inl ⟨rfl, rfl, rfl⟩
  | some uid =>
    rw [show p.recorded.source.metadata.uid = some uid from identified] at run
    dsimp only at run
    rw [Act.bind_apply] at run
    rcases listed : p.recorded.team.receivers.list p.recorded.namespace_ s with ⟨answer, s₁⟩
    have log := log_of_recorded listed
    rw [listed] at run
    refine .inr ⟨uid, answer, rfl, ?_⟩
    cases answer with
    | error e =>
      cases run
      exact ⟨log, rfl⟩
    | ok receivers =>
      cases run
      exact ⟨log, rfl⟩

/-- A source that can own an adapter, and owns none of those listed. -/
structure Unowned (p : Pass W) (uri uid : String) (receivers : List Receiver) (log : List Call) :
    Prop where
  identified : p.source.metadata.uid = some uid
  log : log = [.listAdapters p.namespace_ (.ok receivers),
    .resolveSink p.namespace_ p.source.spec.sink (.ok uri)]
  unowned : ∀ r ∈ receivers, r.isControlledBy uid = false

variable {uri : String}

/-- Creating an adapter asks the platform for the plan of the source, unless there is none. -/
theorem logged_created {made : Except Receiver.Error Receiver}
    (run : p.recorded.createReceiver uri s = (made, s')) :
    (s' = s ∧ ∃ e, Receiver.plan p.settings p.source uri = .error e ∧ made = .error e) ∨
      ∃ plan s₁, Receiver.plan p.settings p.source uri = .ok plan ∧
        s₁.2 = .createAdapter plan made :: s.2 ∧ (p.orderly lasting_true).rel s₁ s' := by
  rw [createReceiver] at run
  cases planned : Receiver.plan p.settings p.source uri with
  | error e =>
    rw [show Receiver.plan p.recorded.settings p.recorded.source uri = .error e from planned] at run
    cases run
    exact .inl ⟨rfl, e, rfl, rfl⟩
  | ok plan =>
    rw [show Receiver.plan p.recorded.settings p.recorded.source uri = .ok plan from planned] at run
    dsimp only at run
    rw [Act.bind_apply] at run
    rcases created : p.recorded.team.receivers.create plan s with ⟨answer, s₁⟩
    have log := log_of_recorded created
    rw [created] at run
    refine .inr ⟨plan, s₁, rfl, ?_⟩
    cases answer with
    | error e =>
      cases run
      exact ⟨log, (p.orderly lasting_true).refl _⟩
    | ok r =>
      cases run
      exact ⟨log, (p.orderly lasting_true).trans (count_orderly _ s₁) (publish_orderly _ _)⟩

theorem plan_of_none (unidentified : p.source.metadata.uid = none) :
    Receiver.plan p.settings p.source uri = .error .noUid := by
  rw [Receiver.plan, Receiver.Owner.ofSource?, unidentified]
  cases p.source.metadata.name <;> rfl

theorem SinkReached.logged {s₁ : W × List Call} (h : p.recorded.SinkReached (w, []) uri s₁) :
    s₁.2 = [.resolveSink p.namespace_ p.source.spec.sink (.ok uri)] ∧ p.InOrder s₁.2 :=
  logged_sink h.valid h.resolved

section Adapter

variable {s₁ s₂ s₃ : W × List Call} (sink : p.recorded.SinkReached (w, []) uri s₁)
include sink

/-- The record behind the look for the adapter is in order. -/
theorem inOrder_owned {found : Except Receiver.Error (Option Receiver)}
    (run : p.recorded.ownedReceiver s₁ = (found, s₂)) : s₁.2 ⊆ s₂.2 ∧ p.InOrder s₂.2 := by
  obtain ⟨log, inOrder⟩ := sink.logged
  obtain ⟨-, -, rfl⟩ | ⟨uid, answer, identified, listed, -⟩ := logged_owned run
  · exact ⟨List.Subset.refl _, inOrder⟩
  · rw [listed, log] at *
    exact ⟨List.subset_cons_self _ _, .listAdapters identified, inOrder⟩

/-- A source without an adapter can own none, or owns none of those listed. -/
theorem unowned_logged (unowned : p.recorded.ownedReceiver s₁ = (.ok none, s₂)) :
    p.source.metadata.uid = none ∨ ∃ uid receivers, p.Unowned uri uid receivers s₂.2 := by
  obtain ⟨log, -⟩ := sink.logged
  obtain ⟨unidentified, -, -⟩ | ⟨uid, answer, identified, listed, found⟩ := logged_owned unowned
  · exact .inl unidentified
  · cases answer with
    | error e => cases found
    | ok receivers =>
      have none : receivers.find? (·.isControlledBy uid) = none := (Except.ok.inj found).symm
      refine .inr ⟨uid, receivers, identified, by rw [listed, log], ?_⟩
      simpa using List.find?_eq_none.1 none

/-- The record behind the creation of the adapter is in order. -/
theorem inOrder_created {made : Except Receiver.Error Receiver}
    (unowned : p.recorded.ownedReceiver s₁ = (.ok none, s₂))
    (run : p.recorded.createReceiver uri s₂ = (made, s₃)) : s₂.2 ⊆ s₃.2 ∧ p.InOrder s₃.2 := by
  obtain ⟨-, inOrder⟩ := inOrder_owned sink unowned
  obtain ⟨rfl, -⟩ | ⟨plan, s', planned, asked, grown, ordered⟩ := logged_created run
  · exact ⟨List.Subset.refl _, inOrder⟩
  · obtain unidentified | ⟨uid, receivers, none⟩ := unowned_logged sink unowned
    · -- a source that can own none has no plan
      rw [plan_of_none unidentified] at planned
      cases planned
    · refine ⟨fun c mem => grown ?_, ordered trivial ?_⟩
      · rw [asked]
        exact List.mem_cons_of_mem _ mem
      · rw [asked]
        refine ⟨?_, inOrder⟩
        rw [none.log]
        exact .createAdapter none.identified none.unowned planned

end Adapter

/-- **Behind the adapter the record is in order**: the sink has an address, all adapters are listed,
and the adapter is known to be the source's own. -/
structure AdapterLogged (p : Pass W) (uri : String) (r : Receiver) (log : List Call) : Prop where
  inOrder : p.InOrder log
  sink : .resolveSink p.namespace_ p.source.spec.sink (.ok uri) ∈ log
  listed : ∃ receivers, .listAdapters p.namespace_ (.ok receivers) ∈ log
  owns : p.Owns log r

theorem AdapterReached.logged {r : Receiver} {s₂ : W × List Call}
    (h : p.recorded.AdapterReached (w, []) uri r s₂) : p.AdapterLogged uri r s₂.2 := by
  obtain ⟨s₁, sink, obtained⟩ := h
  obtain ⟨log, -⟩ := sink.logged
  have resolved : .resolveSink p.namespace_ p.source.spec.sink (.ok uri) ∈ s₁.2 := by simp [log]
  cases obtained with
  | found owned =>
    obtain ⟨grown, inOrder⟩ := inOrder_owned sink owned
    obtain ⟨-, none, -⟩ | ⟨uid, answer, identified, listed, found⟩ := logged_owned owned
    · cases none
    · cases answer with
      | error e => cases found
      | ok receivers =>
        have mem : .listAdapters p.namespace_ (.ok receivers) ∈ s₂.2 := by simp [listed]
        have first : receivers.find? (·.isControlledBy uid) = some r := (Except.ok.inj found).symm
        exact ⟨inOrder, grown resolved, ⟨receivers, mem⟩, .listed identified mem first⟩
  | @created s' unowned made =>
    obtain ⟨looked, -⟩ := inOrder_owned sink unowned
    obtain ⟨grown, inOrder⟩ := inOrder_created sink unowned made
    obtain ⟨-, e, -, failed⟩ | ⟨plan, s₃, planned, asked, later, -⟩ := logged_created made
    · cases failed
    · have mem : .createAdapter plan (.ok r) ∈ s₂.2 := later (by simp [asked])
      have sinkMem := grown (looked resolved)
      refine ⟨inOrder, sinkMem, ?_, .created sinkMem planned mem⟩
      obtain unidentified | ⟨uid, receivers, none⟩ := unowned_logged sink unowned
      · rw [plan_of_none unidentified] at planned
        cases planned
      · exact ⟨receivers, grown (by simp [none.log])⟩

theorem AddressReached.logged {r : Receiver} {address : String} {s₂ : W × List Call}
    (h : p.recorded.AddressReached (w, []) uri r address s₂) : p.Addressed s₂.2 address :=
  ⟨r, h.adapter.logged.owns, h.ready, h.addressed⟩

/-! ## The tokens -/

/-- What is remembered of a secret was read. -/
def Remembered (p : Pass W) (log : List Call) (cache : Credential.Cache) : Prop :=
  ∀ name found, cache.find? name = some found →
    .readSecret p.namespace_ name (.ok found) ∈ log

theorem remembered_nil {log : List Call} : p.Remembered log [] := by
  intro name found held
  rw [Credential.Cache.find?] at held
  cases held

section Tokens

variable {cache cache' : Credential.Cache} {refs : List (Option SecretKey)}

theorem secrets_orderly {address : String} {ref : SecretKey}
    (referred : some ref ∈ tokenKeys p.source) :
    (p.recorded.team.secrets.get p.namespace_ ref.name).Within
      (p.orderly (lasting_addressed p address)) :=
  recorded_orderly (fun _ _ addressed => .readSecret addressed referred)
    (p.team.secrets.get p.namespace_ ref.name)

theorem tokens_orderly (address : String) (referred : refs ⊆ tokenKeys p.source)
    (cache : Credential.Cache) :
    (Credential.resolveAll p.recorded.team.secrets p.namespace_ refs cache).Within
      (p.orderly (lasting_addressed p address)) :=
  Credential.within_resolveAll_of (fun _ mem => secrets_orderly (referred mem)) cache

/-- A token that is found was read, now or earlier. -/
theorem known_of_resolve {ref : SecretKey} {token : String} (remembered : p.Remembered s.2 cache)
    (run : Credential.resolve p.recorded.team.secrets p.namespace_ ref cache s =
      ((.ok token, cache'), s')) :
    p.Known s'.2 (some ref) token ∧ p.Remembered s'.2 cache' := by
  rw [Credential.resolve] at run
  cases known : cache.find? ref.name with
  | some found =>
    rw [known] at run
    obtain ⟨answered, rfl⟩ := Prod.mk.inj run
    obtain ⟨text, rfl⟩ := Prod.mk.inj answered
    exact ⟨.read (remembered ref.name found known) text, remembered⟩
  | none =>
    rw [known] at run
    dsimp only at run
    rw [Act.bind_apply] at run
    rcases read : p.recorded.team.secrets.get p.namespace_ ref.name s with ⟨answer, s₁⟩
    have log := log_of_recorded read
    rw [read] at run
    cases answer with
    | error cause => cases run
    | ok found =>
      obtain ⟨answered, rfl⟩ := Prod.mk.inj run
      obtain ⟨text, rfl⟩ := Prod.mk.inj answered
      have mem : .readSecret p.namespace_ ref.name (.ok found) ∈ s₁.2 := by simp [log]
      refine ⟨.read mem text, fun name found' held => ?_⟩
      rw [Credential.Cache.find?] at held
      split at held
      · next same =>
        cases held
        rwa [← same]
      · rw [log]
        exact List.mem_cons_of_mem _ (remembered name found' held)

/-- **Tokens that are found were read.** -/
theorem known_of_resolveAll {tokens : List String} (referred : refs ⊆ tokenKeys p.source)
    (remembered : p.Remembered s.2 cache)
    (run : Credential.resolveAll p.recorded.team.secrets p.namespace_ refs cache s =
      ((.ok tokens, cache'), s')) : List.Forall₂ (p.Known s'.2) refs tokens := by
  induction refs generalizing cache cache' s s' tokens with
  | nil =>
    cases run
    exact .nil
  | cons ref refs ih =>
    have later : refs ⊆ tokenKeys p.source := fun other mem => referred (List.mem_cons_of_mem _ mem)
    cases ref with
    | none =>
      rw [Credential.resolveAll, Act.bind_apply] at run
      rcases rest : Credential.resolveAll p.recorded.team.secrets p.namespace_ refs cache s with
        ⟨⟨answer, cache₁⟩, s₁⟩
      rw [rest] at run
      cases answer with
      | error e => cases run
      | ok found =>
        cases run
        exact .cons .absent (ih later remembered rest)
    | some ref =>
      rw [Credential.resolveAll, Act.bind_apply] at run
      rcases first : Credential.resolve p.recorded.team.secrets p.namespace_ ref cache s with
        ⟨⟨answer, cache₁⟩, s₁⟩
      rw [first] at run
      cases answer with
      | error e => cases run
      | ok token =>
        obtain ⟨known, remembered⟩ := known_of_resolve remembered first
        dsimp only at run
        rw [Act.bind_apply] at run
        rcases rest : Credential.resolveAll p.recorded.team.secrets p.namespace_ refs cache₁ s₁ with
          ⟨⟨answer, cache₂⟩, s₂⟩
        rw [rest] at run
        cases answer with
        | error e => cases run
        | ok found =>
          cases run
          have grown := ((tokens_orderly "" later cache₁).moved rest).1
          exact .cons (known.mono grown) (ih later remembered rest)

end Tokens

/-- Behind the tokens the record is in order, whether they were found or not. -/
theorem AddressReached.inOrder_tokens {r : Receiver} {address : String} {s₂ s₃ : W × List Call}
    {answer : Except Credential.Failure (List String) × Credential.Cache}
    (h : p.recorded.AddressReached (w, []) uri r address s₂)
    (run : Credential.resolveAll p.recorded.team.secrets p.recorded.namespace_
      (tokenKeys p.recorded.source) [] s₂ = (answer, s₃)) : s₂.2 ⊆ s₃.2 ∧ p.InOrder s₃.2 := by
  obtain ⟨grown, ordered⟩ := (tokens_orderly address (List.Subset.refl _) []).moved run
  exact ⟨grown, ordered h.logged h.adapter.logged.inOrder⟩

/-- **Behind the tokens all is known that a hook needs.** -/
theorem HookReached.logged {r : Receiver} {address access secret : String} {s₃ : W × List Call}
    (h : p.recorded.HookReached (w, []) uri r address access secret s₃) :
    p.Equipped s₃.2 address access secret ∧ p.InOrder s₃.2 := by
  obtain ⟨s₂, cache, adapter, tokens⟩ := h
  obtain ⟨grown, inOrder⟩ := adapter.inOrder_tokens tokens
  have known : List.Forall₂ (p.Known s₃.2) (tokenKeys p.source) [access, secret] :=
    known_of_resolveAll (List.Subset.refl _) remembered_nil tokens
  obtain ⟨accessKnown, secretKnown⟩ : p.Known s₃.2 (some p.source.spec.accessToken) access ∧
      p.Known s₃.2 p.source.spec.secretToken secret := by
    simpa [tokenKeys] using known
  exact ⟨⟨adapter.logged.mono grown, accessKnown, secretKnown⟩, inOrder⟩

/-! ## The hook -/

/-- **The record behind the hook is in order.** -/
theorem inOrder_syncHook {address access secret : String} {scope : Scope}
    {answer : Except Hook.Error Hook.Outcome} (equipped : p.Equipped s.2 address access secret)
    (inScope : p.source.spec.scope = .ok scope) (inOrder : p.InOrder s.2)
    (run : p.recorded.syncHook scope access (p.hookOptions address secret)
      p.source.statusOrBlank.webhookId s = (answer, s')) : s.2 ⊆ s'.2 ∧ p.InOrder s'.2 := by
  rw [syncHook, Act.bind_apply] at run
  rcases opened : p.recorded.team.hooks.client scope access s with ⟨client, s₁⟩
  rw [opened] at run
  have asked : ∀ refusal, p.InOrder (.openClient scope access refusal :: s.2) :=
    fun _ => ⟨.openClient equipped inScope, inOrder⟩
  have log : s₁.2 = .openClient scope access
      (errorOf? (p.team.hooks.client scope access s.1).1) :: s.2 :=
    (congrArg (fun x => x.2.2) opened).symm
  cases client with
  | error e =>
    cases run
    rw [log]
    exact ⟨List.subset_cons_self _ _, asked _⟩
  | ok client =>
    obtain ⟨c, handed, rfl⟩ := p.team.exists_client opened
    rw [handed] at log
    have log : s₁.2 = .openClient scope access none :: s.2 := log
    -- with the client, all that is asked of it is due
    have holds : p.Opened s₁.2 address secret :=
      ⟨scope, access, inScope, equipped.mono (by simp [log]), by simp [log]⟩
    have synced : (Hook.sync p.recorded.team.count c.recorded (p.hookOptions address secret)
        p.source.statusOrBlank.webhookId).Within (p.orderly (lasting_opened p address secret)) :=
      Hook.within_sync count_orderly
        (fun id recorded => recorded_orderly (fun _ _ opened => .getHook opened recorded) (c.get id))
        (recorded_orderly (fun _ _ opened => .createHook opened) (c.create _))
        (fun id recorded => recorded_orderly (fun _ _ opened => .editHook opened recorded)
          (c.edit id _))
    obtain ⟨grown, ordered⟩ := synced.moved run
    rw [log] at grown holds ordered
    exact ⟨fun _ mem => grown (List.mem_cons_of_mem _ mem), ordered holds (asked none)⟩

/-- So is the record of a pass that has all it needs. -/
theorem HookReached.inOrder_syncHook {r : Receiver} {address access secret : String} {scope : Scope}
    {answer : Except Hook.Error Hook.Outcome} {s₃ : W × List Call}
    (h : p.recorded.HookReached (w, []) uri r address access secret s₃)
    (inScope : p.source.spec.scope = .ok scope)
    (recorded : st.webhookId = p.source.statusOrBlank.webhookId)
    (run : p.recorded.syncHook scope access (p.hookOptions address secret) st.webhookId s₃ =
      (answer, s')) : s₃.2 ⊆ s'.2 ∧ p.InOrder s'.2 := by
  obtain ⟨equipped, inOrder⟩ := h.logged
  rw [recorded] at run
  exact Pass.inOrder_syncHook equipped inScope inOrder run

theorem warn_orderly (reason note : String) :
    (p.recorded.warn reason note).Within (p.orderly lasting_true) := publish_orderly _

theorem proclaim_orderly (scope : Scope) (outcome : Hook.Outcome) :
    (p.recorded.proclaim scope outcome).Within (p.orderly lasting_true) := by
  unfold proclaim
  split
  · exact publish_orderly _
  · exact Act.within_pure _

/-! ## The whole pass -/

/-- **Whatever exit a pass takes, its record is in order.** -/
theorem Ends.inOrder {o : Outcome} (h : p.recorded.Ends st (w, []) o s')
    (recorded : st.webhookId = p.source.statusOrBlank.webhookId) : p.InOrder s'.2 := by
  cases h with
  | invalid broken => trivial
  | sinkUnanswered valid resolved transient => exact (logged_sink (p := p) valid resolved).2
  | sinkRefused valid resolved lasting => exact (logged_sink (p := p) valid resolved).2
  | adaptersUnlisted sink unlisted => exact (inOrder_owned sink unlisted).2
  | adapterUncreated sink unowned failed => exact (inOrder_created sink unowned failed).2
  | adapterUnready adapter unready => exact adapter.logged.inOrder
  | adapterUnaddressed adapter ready unaddressed => exact adapter.logged.inOrder
  | tokensAwaited adapter unavailable fault =>
    exact (warn_orderly _ _ _).2 trivial (adapter.inOrder_tokens unavailable).2
  | tokensUnread adapter unavailable unread => exact (adapter.inOrder_tokens unavailable).2
  | hookSynced tokens inScope synced =>
    exact (proclaim_orderly _ _ _).2 trivial (tokens.inOrder_syncHook inScope recorded synced).2
  | hookDenied tokens inScope failed denied =>
    exact (warn_orderly _ _ _).2 trivial (tokens.inOrder_syncHook inScope recorded failed).2
  | hookFailed tokens inScope failed undenied =>
    exact (tokens.inOrder_syncHook inScope recorded failed).2

end HookRelay.Pass

import HookRelay.Proofs.Pass.Served
import HookRelay.Proofs.World.InMemory

/-!
# What keeps a source from going

Taking a source down deletes its hook, or leaves the hook where it is and says so, or fails, and
then the source stays until it is taken down again. Read from the outside there are few exits, and
`Deletes` and `Departs` list them. From the list follows what makes taking down fail, in terms of
what the secrets, GitLab and its clients answered.

A source is not to be kept for ever by what it says. A secret that is missing, a key that is
missing and denied access do not keep it. A token that is no text does: it fails as a secret that
could not be read would, although trying again does not help.

## Main definitions

* `Deletes` : the exits of deleting a hook
* `Departs` : the exits of taking a source down
* `Hindered` : what the collaborators answered where a source is kept

## Main statements

* `finalize_departs` : taking a source down ends by one of the exits
* `finalize_error_iff` : what keeps a source from going, and nothing else does
* `kept_by_garbled_token` : a token that is no text keeps a source
-/

namespace HookRelay.Pass

variable {W : Type} (p : Pass W)

/-! ## The exits -/

/-- The token for GitLab was read. -/
def TokenReached (w : W) (scope : Scope) (token : String) (w₁ : W) : Prop :=
  ∃ cache, p.source.spec.scope = .ok scope ∧
    Credential.resolve p.team.secrets p.namespace_ p.source.spec.accessToken [] w =
      ((.ok token, cache), w₁)

/-- GitLab handed out a client. -/
def ClientReached (w : W) (client : Hook.Client W) (w₂ : W) : Prop :=
  ∃ scope token w₁, p.TokenReached w scope token w₁ ∧
    p.team.hooks.client scope token w₁ = (.ok client, w₂)

/-- **The exits of deleting a hook**: what became of it, or why nothing can be said. -/
inductive Deletes (id : Int) (w : W) : Except Error Fate → W → Prop where
  /-- The source names no scope. -/
  | unscoped {fault : Source.ScopeFault} (inScope : p.source.spec.scope = .error fault) :
      Deletes id w (.ok (.abandoned (Source.Invalidity.scope fault).message)) w
  /-- There is no secret, or no key in it. -/
  | tokenMissing {scope : Scope} {e : Credential.Failure} {cache : Credential.Cache} {w₁ : W}
      (inScope : p.source.spec.scope = .ok scope)
      (unavailable : Credential.resolve p.team.secrets p.namespace_ p.source.spec.accessToken [] w =
        ((.error e, cache), w₁))
      (missing : e.isMissing = true) : Deletes id w (.ok (.abandoned e.message)) w₁
  /-- The secret could not be read, or what stands under the key is no text. -/
  | tokenUnread {scope : Scope} {e : Credential.Failure} {cache : Credential.Cache} {w₁ : W}
      (inScope : p.source.spec.scope = .ok scope)
      (unavailable : Credential.resolve p.team.secrets p.namespace_ p.source.spec.accessToken [] w =
        ((.error e, cache), w₁))
      (present : e.isMissing = false) : Deletes id w (.error (.credentials e)) w₁
  /-- The address of GitLab cannot carry a path. -/
  | clientInvalid {scope : Scope} {token text : String} {w₁ w₂ : W}
      (read : p.TokenReached w scope token w₁)
      (refused : p.team.hooks.client scope token w₁ = (.error (.invalidUrl text), w₂)) :
      Deletes id w (.ok (.abandoned (Hook.Error.invalidUrl text).message)) w₂
  /-- There is no client for another reason. -/
  | clientRefused {scope : Scope} {token : String} {e : Hook.Error} {w₁ w₂ : W}
      (read : p.TokenReached w scope token w₁)
      (refused : p.team.hooks.client scope token w₁ = (.error e, w₂))
      (other : ∀ text, e ≠ .invalidUrl text) : Deletes id w (.error (.hooks e)) w₂
  /-- The hook is gone. -/
  | gone {client : Hook.Client W} {there : Bool} {w₂ w₃ : W}
      (opened : p.ClientReached w client w₂)
      (removed : Hook.remove p.team.count client id w₂ = (.ok there, w₃)) :
      Deletes id w (.ok .deleted) w₃
  /-- Access to the hook was denied. -/
  | denied {client : Hook.Client W} {e : Hook.Error} {w₂ w₃ : W}
      (opened : p.ClientReached w client w₂)
      (failed : Hook.remove p.team.count client id w₂ = (.error e, w₃))
      (denied : e.isDenied = true) : Deletes id w (.ok (.abandoned e.message)) w₃
  /-- The hook could not be deleted. -/
  | undeleted {client : Hook.Client W} {e : Hook.Error} {w₂ w₃ : W}
      (opened : p.ClientReached w client w₂)
      (failed : Hook.remove p.team.count client id w₂ = (.error e, w₃))
      (undenied : e.isDenied = false) : Deletes id w (.error (.hooks e)) w₃

/-- **The exits of taking a source down.** -/
inductive Departs (w : W) : Except Error Source.Status → W → Prop where
  /-- The source has no hook. -/
  | unrecorded (recorded : p.source.statusOrBlank.webhookId = none) :
      Departs w (.ok p.source.statusOrBlank) w
  /-- The hook is no longer that of the source. -/
  | parted {id : Int} {fate : Fate} {w₁ : W}
      (recorded : p.source.statusOrBlank.webhookId = some id)
      (deletes : p.Deletes id w (.ok fate) w₁) :
      Departs w (.ok (p.withoutHook (p.report id fate w₁).1 p.source.statusOrBlank))
        (p.report id fate w₁).2
  /-- The source stays. -/
  | kept {id : Int} {e : Error} {w₁ : W} (recorded : p.source.statusOrBlank.webhookId = some id)
      (deletes : p.Deletes id w (.error e) w₁) : Departs w (.error e) w₁

/-! ## Taking a source down ends by one of the exits -/

variable {p} {w : W}

theorem deleteThrough_deletes {id : Int} {client : Hook.Client W} {w₂ : W}
    (opened : p.ClientReached w client w₂) :
    p.Deletes id w (p.deleteThrough client id w₂).1 (p.deleteThrough client id w₂).2 := by
  rw [deleteThrough, Act.bind_apply]
  rcases run : Hook.remove p.team.count client id w₂ with ⟨answer, w₃⟩
  cases answer with
  | ok there => exact .gone opened run
  | error e =>
    cases denied : e.isDenied with
    | true =>
      have deletes : p.Deletes id w _ _ := .denied opened run denied
      simpa [denied] using deletes
    | false =>
      have deletes : p.Deletes id w _ _ := .undeleted opened run denied
      simpa [denied] using deletes

theorem deleteWith_deletes {id : Int} {scope : Scope} {token : String} {w₁ : W}
    (read : p.TokenReached w scope token w₁) :
    p.Deletes id w (p.deleteWith scope token id w₁).1 (p.deleteWith scope token id w₁).2 := by
  rw [deleteWith, Act.bind_apply]
  rcases opened : p.team.hooks.client scope token w₁ with ⟨answer, w₂⟩
  cases answer with
  | ok client => exact deleteThrough_deletes ⟨scope, token, w₁, read, opened⟩
  | error e =>
    cases e with
    | invalidUrl text => exact .clientInvalid read opened
    | notFound _ | denied _ _ | refused _ _ | transport _ =>
      exact .clientRefused read opened fun text h => by cases h

theorem deleteHook_deletes (id : Int) (w : W) :
    p.Deletes id w (p.deleteHook id w).1 (p.deleteHook id w).2 := by
  unfold deleteHook
  cases inScope : p.source.spec.scope with
  | error fault => exact .unscoped inScope
  | ok scope =>
    dsimp only
    rw [Act.bind_apply]
    rcases resolved : Credential.resolve p.team.secrets p.namespace_ p.source.spec.accessToken [] w
      with ⟨⟨answer, cache⟩, w₁⟩
    cases answer with
    | ok token => exact deleteWith_deletes ⟨cache, inScope, resolved⟩
    | error e =>
      cases missing : e.isMissing with
      | true =>
        have deletes : p.Deletes id w _ _ := .tokenMissing inScope resolved missing
        simpa [missing] using deletes
      | false =>
        have deletes : p.Deletes id w _ _ := .tokenUnread inScope resolved missing
        simpa [missing] using deletes

/-- **Taking a source down ends by one of its exits.** -/
theorem finalize_departs (p : Pass W) (w : W) :
    p.Departs w (p.finalize w).1 (p.finalize w).2 := by
  unfold finalize
  cases recorded : p.source.statusOrBlank.webhookId with
  | none => exact .unrecorded recorded
  | some id =>
    have deletes := deleteHook_deletes (p := p) id w
    rcases run : p.deleteHook id w with ⟨answer, w₁⟩
    rw [run] at deletes
    dsimp only
    rw [Act.bind_apply, run]
    cases answer with
    | error e => exact .kept recorded deletes
    | ok fate => exact .parted recorded deletes

/-! ## The answers behind the exits -/

/-- The secret holds `bytes` under the key of the token for GitLab. -/
def HoldsToken (p : Pass W) (w : W) (bytes : ByteArray) (w₁ : W) : Prop :=
  ∃ data,
    p.team.secrets.get p.namespace_ p.source.spec.accessToken.name w = (.ok (some data), w₁) ∧
      data.find? p.source.spec.accessToken.key = some bytes

/-- **What the collaborators answered where a source with the hook `id` is kept.** -/
inductive Hindered (p : Pass W) (scope : Scope) (id : Int) (w : W) : Error → Prop where
  /-- The secret could not be read. -/
  | secretUnread {cause : String} {w₁ : W}
      (unread : p.team.secrets.get p.namespace_ p.source.spec.accessToken.name w =
        (.error cause, w₁)) :
      Hindered p scope id w (.credentials (.store p.source.spec.accessToken.name cause))
  /-- The token is no text. -/
  | tokenGarbled {bytes : ByteArray} {w₁ : W} (held : p.HoldsToken w bytes w₁)
      (garbled : String.fromUTF8? bytes = none) :
      Hindered p scope id w (.credentials
        (.notText p.source.spec.accessToken.name p.source.spec.accessToken.key))
  /-- There is no client, though the address of GitLab can carry a path. -/
  | clientRefused {bytes : ByteArray} {token : String} {e : Hook.Error} {w₁ w₂ : W}
      (held : p.HoldsToken w bytes w₁) (text : String.fromUTF8? bytes = some token)
      (refused : p.team.hooks.client scope token w₁ = (.error e, w₂))
      (other : ∀ text, e ≠ .invalidUrl text) : Hindered p scope id w (.hooks e)
  /-- The hook was not deleted, though it is there and access is not denied. -/
  | undeleted {bytes : ByteArray} {token : String} {client : Hook.Client W} {e : Hook.Error}
      {w₁ w₂ w₃ : W} (held : p.HoldsToken w bytes w₁)
      (text : String.fromUTF8? bytes = some token)
      (opened : p.team.hooks.client scope token w₁ = (.ok client, w₂))
      (failed : client.delete id w₂ = (.error e, w₃))
      (there : e.isNotFound = false) (undenied : e.isDenied = false) :
      Hindered p scope id w (.hooks e)

theorem resolve_of_holdsToken {bytes : ByteArray} {w₁ : W} (held : p.HoldsToken w bytes w₁) :
    ∃ cache, Credential.resolve p.team.secrets p.namespace_ p.source.spec.accessToken [] w =
      ((match String.fromUTF8? bytes with
        | some token => .ok token
        | none => .error
          (.notText p.source.spec.accessToken.name p.source.spec.accessToken.key), cache), w₁) := by
  obtain ⟨data, read, key⟩ := held
  rw [Credential.resolve, Credential.Cache.find?]
  dsimp only
  rw [Act.bind_apply, read]
  have answers : Credential.tokenOf p.source.spec.accessToken (some data) =
      match String.fromUTF8? bytes with
      | some token => .ok token
      | none => .error
        (.notText p.source.spec.accessToken.name p.source.spec.accessToken.key) := by
    cases text : String.fromUTF8? bytes <;> simp [Credential.tokenOf, key, text]
  exact ⟨_, congrArg (fun answer => ((answer, _), w₁)) answers⟩

/-- What reading the token for GitLab says of the secret: a token is a text under its key, and a
failure is of something missing, or keeps the source. -/
theorem resolve_answers {answer : Except Credential.Failure String} {cache : Credential.Cache}
    {w₁ : W}
    (resolved : Credential.resolve p.team.secrets p.namespace_ p.source.spec.accessToken [] w =
      ((answer, cache), w₁)) :
    match answer with
    | .ok token => ∃ bytes, p.HoldsToken w bytes w₁ ∧ String.fromUTF8? bytes = some token
    | .error e => e.isMissing = true ∨ ∀ scope id, p.Hindered scope id w (.credentials e) := by
  rw [Credential.resolve, Credential.Cache.find?] at resolved
  dsimp only at resolved
  rw [Act.bind_apply] at resolved
  rcases read : p.team.secrets.get p.namespace_ p.source.spec.accessToken.name w with ⟨found, w'⟩
  rw [read] at resolved
  cases found with
  | error cause =>
    cases resolved
    exact .inr fun _ _ => .secretUnread read
  | ok found =>
    cases found with
    | none =>
      cases resolved
      exact .inl rfl
    | some data =>
      cases key : data.find? p.source.spec.accessToken.key with
      | none =>
        simp only [Act.pure_apply, Credential.tokenOf, key] at resolved
        cases resolved
        exact .inl rfl
      | some bytes =>
        cases text : String.fromUTF8? bytes with
        | none =>
          simp only [Act.pure_apply, Credential.tokenOf, key, text] at resolved
          cases resolved
          exact .inr fun _ _ => .tokenGarbled ⟨data, read, key⟩ text
        | some token =>
          simp only [Act.pure_apply, Credential.tokenOf, key, text] at resolved
          cases resolved
          exact ⟨bytes, ⟨data, read, key⟩, text⟩

/-- A removal fails as the client does, unless the hook was gone already. -/
theorem remove_error_iff {client : Hook.Client W} {id : Int} {e : Hook.Error} :
    (Hook.remove p.team.count client id w).1 = .error e ↔
      (client.delete id w).1 = .error e ∧ e.isNotFound = false := by
  rw [Hook.remove, Act.bind_apply, Hook.counted_apply]
  rcases client.delete id w with ⟨answer, w'⟩
  cases answer with
  | ok u => simp
  | error cause => cases missing : cause.isNotFound <;> grind [Act.pure_apply]

/-! ## What keeps a source -/

theorem Deletes.hindered {id : Int} {answer : Except Error Fate} {w' : W}
    (deletes : p.Deletes id w answer w') {e : Error} (failed : answer = .error e) :
    ∃ scope, p.source.spec.scope = .ok scope ∧ p.Hindered scope id w e := by
  cases deletes with
  | unscoped _ | tokenMissing _ _ _ | clientInvalid _ _ | gone _ _ | denied _ _ _ => cases failed
  | @tokenUnread scope _ _ _ inScope unavailable present =>
    cases failed
    obtain missing | hindered := resolve_answers unavailable
    · rw [missing] at present
      cases present
    · exact ⟨scope, inScope, hindered scope id⟩
  | @clientRefused scope _ _ _ _ read refused other =>
    cases failed
    obtain ⟨cache, inScope, resolved⟩ := read
    obtain ⟨bytes, held, text⟩ := resolve_answers resolved
    exact ⟨scope, inScope, .clientRefused held text refused other⟩
  | undeleted opened removed undenied =>
    cases failed
    obtain ⟨scope, token, w₁, ⟨cache, inScope, resolved⟩, opened⟩ := opened
    obtain ⟨bytes, held, text⟩ := resolve_answers resolved
    obtain ⟨refused, there⟩ := remove_error_iff.1 (congrArg Prod.fst removed)
    exact ⟨scope, inScope, .undeleted held text opened (Prod.ext refused rfl) there undenied⟩

theorem Hindered.deleteHook_eq {scope : Scope} {id : Int} {e : Error}
    (h : p.Hindered scope id w e) (inScope : p.source.spec.scope = .ok scope) :
    (p.deleteHook id w).1 = .error e := by
  cases h with
  | secretUnread unread =>
    simp [deleteHook, inScope, Credential.resolve, Credential.Cache.find?, unread,
      Credential.Failure.isMissing]
  | tokenGarbled held garbled =>
    obtain ⟨cache, resolved⟩ := resolve_of_holdsToken held
    simp [deleteHook, inScope, resolved, garbled, Credential.Failure.isMissing]
  | @clientRefused bytes token e _ _ held text refused other =>
    obtain ⟨cache, resolved⟩ := resolve_of_holdsToken held
    simp only [deleteHook, inScope, Act.bind_apply, resolved, text, deleteWith, refused]
    cases e with
    | invalidUrl text => exact absurd rfl (other text)
    | notFound _ | denied _ _ | refused _ _ | transport _ => rfl
  | @undeleted bytes token client e _ w₂ _ held text opened failed there undenied =>
    obtain ⟨cache, resolved⟩ := resolve_of_holdsToken held
    have removed : (Hook.remove p.team.count client id w₂).1 = .error e :=
      remove_error_iff.2 ⟨congrArg Prod.fst failed, there⟩
    simp [deleteHook, inScope, resolved, text, deleteWith, opened, deleteThrough, removed,
      undenied]

/-- A source that has a hook and a scope is kept, for the reason `e`. -/
def Kept (p : Pass W) (w : W) (e : Error) : Prop :=
  ∃ id scope, p.source.statusOrBlank.webhookId = some id ∧ p.source.spec.scope = .ok scope ∧
    p.Hindered scope id w e

/-- **What keeps a source from going.** Taking it down fails for one of four reasons, and where
none of them is there it ends with a status that records no hook. -/
theorem finalize_error_iff (p : Pass W) (w : W) :
    (∀ e, (p.finalize w).1 = .error e ↔ p.Kept w e) ∧
      ((∀ e, ¬ p.Kept w e) → ∃ st, (p.finalize w).1 = .ok st ∧ st.webhookId = none) := by
  have kept_iff : ∀ e, (p.finalize w).1 = .error e ↔ p.Kept w e := by
    intro e
    constructor
    · intro failed
      have departs := finalize_departs p w
      rw [failed] at departs
      cases departs with
      | @kept id _ _ recorded deletes =>
        obtain ⟨scope, inScope, hindered⟩ := deletes.hindered rfl
        exact ⟨id, scope, recorded, inScope, hindered⟩
    · rintro ⟨id, scope, recorded, inScope, hindered⟩
      have kept := hindered.deleteHook_eq inScope
      simp [finalize, recorded, kept]
  refine ⟨kept_iff, fun free => ?_⟩
  cases ended : (p.finalize w).1 with
  | ok st => exact ⟨st, rfl, webhookId_finalize ended⟩
  | error e => exact absurd ((kept_iff e).1 ended) (free e)

/-! ## In memory -/

/-- The source in memory with its hook, as a first pass leaves it. -/
def hooked : Source :=
  { InMemory.source with
    status := some ((InMemory.passOver InMemory.source).converge InMemory.ready).1.status }

/-- The world behind that pass, once somebody has put a byte that is no text under the key of the
token. -/
def garbled : InMemory :=
  { ((InMemory.passOver InMemory.source).converge InMemory.ready).2 with
    secrets := ⟨[("team/gitlab", [("token", ⟨#[255]⟩)])], none, []⟩ }

/-- A source whose token is no text is kept, although its secret was read and GitLab was not even
asked for a client. -/
theorem kept_by_garbled_token :
    (InMemory.collaborators.secrets.get "team" "gitlab" garbled).1 =
        .ok (some [("token", ⟨#[255]⟩)]) ∧
      ((InMemory.passOver hooked).finalize garbled).1 =
        .error (.credentials (.notText "gitlab" "token")) ∧
      ((InMemory.passOver hooked).finalize garbled).2.hooks.calls = garbled.hooks.calls := by
  refine ⟨rfl, ?_, ?_⟩
  · rfl
  · rfl

end HookRelay.Pass

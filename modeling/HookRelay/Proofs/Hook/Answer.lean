import HookRelay.Hook.Rest
import HookRelay.Proofs.Pass.Calls
import HookRelay.Proofs.Url.Segment

/-!
# One request to GitLab, and its answer

A client over HTTP is put between a network that answers anything and a recorder of what was sent
and what came back. A request about hooks is sent if its address can be reached, and what is made of
the answer is decided by its status, its body, and whether the request was about one hook.

## Main definitions

* `Exchange`, `Http.Network.recorded` : what was sent and what came back
* `Hook.hook?` : the hook that an answer of success reports
* `Hook.Reachable` : an address that a request can be sent to
* `Hook.Below` : where the hooks lie below the address of all of them
* `Hook.Understood` : what is made of an answer

## Main statements

* `Hook.below_hooksUrl` : the addresses of hooks, whatever the scope
* `Hook.understood_cases` : what is made of an answer
* `Hook.ask_recorded`, `Hook.ask_unreachable` : which requests are sent
-/

namespace HookRelay

/-! ## Exchanges -/

/-- A request that was sent, and what came back unless the connection failed. -/
structure Exchange where
  request : Http.Request
  reply : Option Http.Response

/-- A network that is recorded, the latest exchange first. -/
def Http.Network.recorded {W : Type} (net : Http.Network W) : Http.Network (W × List Exchange) where
  exchange r := (net.exchange r).noted fun reply => ⟨r, reply⟩

namespace Hook

/-- An address that a request can be sent to: over HTTP, at a host that a request can carry. -/
def Reachable (url : Url) : Prop := url.hostText?.isSome = true ∧ Http.isRequestable url = true

instance (url : Url) : Decidable (Reachable url) :=
  inferInstanceAs (Decidable (url.hostText?.isSome = true ∧ Http.isRequestable url = true))

/-! ## Addresses -/

/-- The address of each hook is that of all hooks with the number of the hook behind it. -/
def Below (hooks : Url) : Prop :=
  ∃ above, hooks.path = .segments (above ++ ["hooks"]) ∧ ∀ id : Int,
    hookUrl hooks id = { hooks with path := .segments (above ++ ["hooks"] ++ [toString id]) }

/-- Whatever the instance and the scope, the last segment is that of all hooks. -/
theorem exists_hooks_pushed {scope : Scope} {hooks : Url} (opened : hooksUrl scope = .ok hooks) :
    ∃ (url : Url) (segments : List String), url.path = .segments segments ∧
      hooks = url.pushSegment "hooks" := by
  unfold hooksUrl at opened
  split at opened
  · cases opened
  · next url parsed =>
    split at opened
    · cases opened
    · next segments path =>
      cases opened
      have started : ∃ segments, url.popEmptySegment.path = .segments segments := by
        rw [Url.popEmptySegment, path]
        dsimp only
        split
        · exact ⟨_, rfl⟩
        · exact ⟨segments, path⟩
      obtain ⟨_, path⟩ := started
      obtain ⟨_, path⟩ := Url.exists_segments_pushSegment "api" path
      obtain ⟨_, path⟩ := Url.exists_segments_pushSegment "v4" path
      obtain ⟨_, path⟩ := Url.exists_segments_pushSegment scope.collection path
      obtain ⟨_, path⟩ := Url.exists_segments_pushSegment scope.path path
      exact ⟨_, _, path, rfl⟩

theorem below_hooksUrl {scope : Scope} {hooks : Url} (opened : hooksUrl scope = .ok hooks) :
    Below hooks := by
  obtain ⟨url, segments, path, rfl⟩ := exists_hooks_pushed opened
  have bare : "hooks".toList.all Url.isBare = true := by decide
  rw [Url.pushSegment_bare path (List.all_eq_true.1 bare)]
  refine ⟨url.path.openSegments.reverse, rfl, fun id => ?_⟩
  have nonempty : url.path.openSegments.reverse ++ ["hooks"] ≠ [""] := by
    intro same
    have last := congrArg List.getLast? same
    simp at last
  rw [hookUrl, Url.pushSegment_behind rfl nonempty (Url.isBare_toString id)]

/-! ## One answer -/

/-- The status of an answer. -/
def status? (reply : Option Http.Response) : Option Nat := reply.map Http.Response.status

/-- The hook that an answer of success reports. -/
def hook? (reply : Option Http.Response) : Option Reported :=
  reply.bind fun r =>
    if Http.isSuccess r.status then (Json.decodeText Reported.record.decode r.body).toOption
    else none

section Answer

variable {url : Url} {id : Option Int} {reply : Option Http.Response} {h : Reported}

/-- What is made of an answer. -/
def understood (url : Url) (id : Option Int) : Option Http.Response → Except Error Reported
  | none => .error (.transport (.connection url))
  | some r => reported id r

/-- **What is made of an answer**, by its status and its body: `404` says that a hook is gone, `401`
and `403` deny access, and a success reports the hook. -/
inductive Understood (url : Url) (id : Option Int) :
    Option Http.Response → Except Error Reported → Prop
  | hook {r : Http.Response} {h : Reported} (success : Http.isSuccess r.status = true)
      (decoded : Json.decodeText Reported.record.decode r.body = .ok h) :
      Understood url id (some r) (.ok h)
  | garbled {r : Http.Response} {e : Json.Mismatch} (success : Http.isSuccess r.status = true)
      (undecoded : Json.decodeText Reported.record.decode r.body = .error e) :
      Understood url id (some r) (.error (.transport .undecodable))
  | gone {r : Http.Response} {q : Int} (status : r.status = 404) (about : id = some q) :
      Understood url id (some r) (.error (.notFound q))
  | denied {r : Http.Response} (status : r.status = 401 ∨ r.status = 403) (message : String) :
      Understood url id (some r) (.error (.denied r.status message))
  | refused {r : Http.Response} (failure : Http.isSuccess r.status = false)
      (open_ : r.status ≠ 401 ∧ r.status ≠ 403) (kept : r.status = 404 → id = none)
      (message : String) : Understood url id (some r) (.error (.refused r.status message))
  | dropped : Understood url id none (.error (.transport (.connection url)))

theorem reported_of_success {r : Http.Response} (success : Http.isSuccess r.status = true) :
    reported id r = match Json.decodeText Reported.record.decode r.body with
      | .ok hook => .ok hook
      | .error _ => .error (.transport .undecodable) := by
  have passed : check id r = .ok r := if_pos success
  cases decoded : Json.decodeText Reported.record.decode r.body <;>
    simp only [reported, passed, decoded]

theorem understood_of_failure {r : Http.Response} (failure : Http.isSuccess r.status = false) :
    Understood url id (some r) (reported id r) := by
  unfold reported check
  rw [if_neg (by simp [failure])]
  split
  · next e failed =>
    split at failed
    · next gone =>
      cases failed
      exact .gone gone rfl
    · next denied =>
      cases failed
      exact .denied (.inl denied) _
    · next denied =>
      cases failed
      exact .denied (.inr denied) _
    · next not401 not403 kept =>
      cases failed
      refine .refused failure ⟨not401, not403⟩ (fun gone => ?_) _
      exact Option.eq_none_iff_forall_ne_some.2 fun q => kept q gone
  · next r' passed => split at passed <;> cases passed

theorem understood_cases (url : Url) (id : Option Int) (reply : Option Http.Response) :
    Understood url id reply (understood url id reply) := by
  cases reply with
  | none => exact .dropped
  | some r =>
    show Understood url id (some r) (reported id r)
    cases success : Http.isSuccess r.status with
    | true =>
      rw [reported_of_success success]
      cases decoded : Json.decodeText Reported.record.decode r.body with
      | ok hook => exact .hook success decoded
      | error e => exact .garbled success decoded
    | false => exact understood_of_failure success

theorem status?_ne_of_success {r : Http.Response} (success : Http.isSuccess r.status = true)
    {n : Nat} (failure : 300 ≤ n) : status? (some r) ≠ some n := by
  intro same
  have below : 200 ≤ r.status ∧ r.status < 300 := by simpa [Http.isSuccess] using success
  have : r.status = n := Option.some_inj.1 same
  omega

theorem understood_ok_iff : understood url id reply = .ok h ↔ hook? reply = some h := by
  have how := understood_cases url id reply
  generalize understood url id reply = answer at how ⊢
  cases how with
  | hook success decoded => simp [hook?, success, decoded, Except.toOption]
  | garbled success undecoded => simp [hook?, success, undecoded, Except.toOption]
  | gone status about => simp [hook?, status, Http.isSuccess]
  | denied status message =>
    rcases status with status | status <;> simp [hook?, status, Http.isSuccess]
  | refused failure open_ kept message => simp [hook?, failure]
  | dropped => simp [hook?]

/-- A hook is missing if the answer is 404 and the request was about one hook. -/
theorem understood_notFound_iff {q : Int} :
    understood url id reply = .error (.notFound q) ↔ id = some q ∧ status? reply = some 404 := by
  have how := understood_cases url id reply
  generalize understood url id reply = answer at how ⊢
  cases how with
  | hook success decoded | garbled success undecoded =>
    exact ⟨nofun, fun missing => absurd missing.2 (status?_ne_of_success success (by decide))⟩
  | gone status about => simp [status?, status, about]
  | denied status message => rcases status with status | status <;> simp [status?, status]
  | refused failure open_ kept message =>
    refine ⟨nofun, fun ⟨about, gone⟩ => ?_⟩
    cases about.symm.trans (kept (Option.some_inj.1 gone))
  | dropped => simp [status?]

/-- Access was denied if the answer is 401 or 403. -/
theorem understood_denied_iff :
    (∃ status message, understood url id reply = .error (.denied status message)) ↔
      status? reply = some 401 ∨ status? reply = some 403 := by
  have how := understood_cases url id reply
  generalize understood url id reply = answer at how ⊢
  cases how with
  | hook success decoded | garbled success undecoded =>
    have open_ {n : Nat} := status?_ne_of_success success (n := n)
    refine ⟨nofun, fun denied => ?_⟩
    rcases denied with denied | denied
    · exact absurd denied (open_ (by decide))
    · exact absurd denied (open_ (by decide))
  | gone status about => simp [status?, status]
  | denied status message => simp [status?, status]
  | refused failure open_ kept message => simp [status?, open_.1, open_.2]
  | dropped => simp [status?]

end Answer

/-! ## One request -/

section Request

variable {hooks url : Url} {token : String} {W : Type} {net : Http.Network W}

/-- A hook is found at the host of all hooks. -/
theorem reachable_hookUrl (id : Int) : Reachable (hookUrl hooks id) ↔ Reachable hooks := by
  obtain ⟨scheme, authority, -⟩ := Url.frame_pushSegment (toString id) hooks
  simp only [Reachable, Http.isRequestable, Url.isHttp, Url.hostText?, hookUrl, scheme, authority]

/-- A request with a legal token can be built if its address can be reached. -/
theorem buildFailure?_request (legal : Http.isLegalText token = true) (method : String)
    (url : Url) (fields : Option Options) :
    Http.buildFailure? (request token method url fields) =
      if Reachable url then none else some (.illegalUrl url) := by
  have headers : (request token method url fields).headers.all
      (fun h => Http.isLegalText h.2) = true := by
    have agent : Http.isLegalText userAgent = true := by decide +kernel
    have form : Http.isLegalText "application/json" = true := by decide +kernel
    cases fields <;> simp [request, legal, agent, form]
  rw [Http.buildFailure?, headers]
  show (if url.hostText?.isNone then _ else if _ then _ else
    if !Http.isRequestable url then some (Http.Failure.illegalUrl url) else none) = _
  cases host : url.hostText? with
  | none => simp [Reachable, host, request]
  | some text => cases requestable : Http.isRequestable url <;> simp [Reachable, host, requestable]

theorem ask_unreachable (legal : Http.isLegalText token = true) (unreachable : ¬ Reachable url)
    (method : String) (fields : Option Options) (read : Http.Response → Except Error Reported)
    (w : W) : ask net (request token method url fields) read w =
      (.error (.transport (.illegalUrl url)), w) := by
  rw [ask, Act.bind_apply, Http.send, buildFailure?_request legal, if_neg unreachable]
  rfl

/-- **A request that can be built is sent**, and the record holds it with its answer. -/
theorem ask_recorded (net : Http.Network W) (legal : Http.isLegalText token = true)
    (reachable : Reachable url) (method : String) (fields : Option Options) (id : Option Int)
    (w : W) (log : List Exchange) :
    ∃ reply w', ask net.recorded (request token method url fields) (reported id) (w, log) =
      (understood url id reply, w', ⟨request token method url fields, reply⟩ :: log) := by
  rcases exchanged : net.exchange (request token method url fields) w with ⟨reply, w'⟩
  refine ⟨reply, w', ?_⟩
  have noted : net.recorded.exchange (request token method url fields) (w, log) =
      (reply, w', ⟨request token method url fields, reply⟩ :: log) := by
    rw [Http.Network.recorded]
    simp only [Act.noted, exchanged]
  rw [ask, Act.bind_apply, Http.send, buildFailure?_request legal, if_pos reachable]
  dsimp only
  rw [Act.bind_apply, noted]
  cases reply <;> rfl

/-- The recorder changes nothing. -/
theorem simulates_ask {α : Type} (r : Http.Request) (read : Http.Response → Except Error α) :
    (ask net.recorded r read).Simulates (fun s w => s.1 = w) (ask net r read) := by
  refine Act.Simulates.bind ?_ fun answer => ?_
  · unfold Http.send
    cases Http.buildFailure? r with
    | some f => exact .pure rfl
    | none =>
      refine (Act.simulates_noted _ (net.exchange r)).bind fun reply => ?_
      cases reply with
      | none => exact .pure rfl
      | some response => exact .pure rfl
  · cases answer with
    | error cause => exact .pure rfl
    | ok response => exact .pure rfl

end Request

end Hook

end HookRelay

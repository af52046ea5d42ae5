import HookRelay.Delivery.Adapter
import HookRelay.Proofs.Delivery.Translated
import HookRelay.Proofs.Pass.Calls
import Mathlib.Logic.ExistsUnique

/-!
# What becomes of a delivery

A delivery that is posted to an adapter is answered by what became of it. It is no event, and nothing
is sent; or its event is given to the sender once, and the answer says whether the sender had it
acknowledged. Each time one counter goes up, once. So no delivery is lost without a word, and none
is sent twice. A delivery that is too large is not even looked into.

Put a recorder between the adapter and its collaborators, and what the adapter did is a list of
steps. The recorder changes nothing.

## Main definitions

* `Adapter.Step`, `Adapter.steps` : what an adapter does while it answers a request
* `Fate` : what becomes of a delivery, with the answer and the steps that go with it
* `Adapter.Delivered` : a sink acknowledged a delivery over HTTP

## Main statements

* `Adapter.serve_recorded` : recorders change nothing
* `Adapter.serve_delivery` : a delivery has one fate, and is answered by it
-/

namespace HookRelay.Delivery

open Http (Reply)

/-- What an adapter does while it answers a request. -/
inductive Adapter.Step where
  | sent (event : Event) (answer : Except SendFailure Unit)
  | counted (counter : Counter)

/-- **What becomes of a delivery**: it is rejected, or its event is not acknowledged, or it is
delivered. -/
inductive Fate where
  /-- It is no event. -/
  | rejected (why : Rejection)
  /-- Its event was not acknowledged. -/
  | unsent (event : Event) (why : SendFailure)
  /-- Its event was acknowledged. -/
  | acknowledged (event : Event)

namespace Fate

/-- What the translation of the delivery yields. -/
def translation : Fate → Except Rejection Event
  | rejected why => .error why
  | unsent event _ | acknowledged event => .ok event

/-- The status with which the delivery is answered: `400`, `500` or `202`. -/
def status : Fate → Nat
  | rejected _ => 400
  | unsent _ _ => 500
  | acknowledged _ => 202

/-- What is done for the delivery, in this order. -/
def steps : Fate → List Adapter.Step
  | rejected why => [.counted (.requestRejected why.reason)]
  | unsent event why => [.sent event (.error why), .counted .sendFailure]
  | acknowledged event => [.sent event (.ok ()), .counted (.eventReceived event.type)]

/-- What the translation yields and the steps tell the fates apart. -/
theorem eq_of_steps {fate fate' : Fate} (translation : fate'.translation = fate.translation)
    (steps : fate'.steps = fate.steps) : fate' = fate := by
  cases fate with
  | rejected why =>
    cases fate' with
    | rejected why' => rw [Except.error.inj translation]
    | unsent _ _ | acknowledged _ => cases translation
  | unsent event why =>
    cases fate' with
    | rejected _ => cases translation
    | unsent event' why' =>
      cases steps
      rfl
    | acknowledged _ => cases steps
  | acknowledged event =>
    cases fate' with
    | rejected _ => cases translation
    | unsent _ _ => cases steps
    | acknowledged event' => rw [Except.ok.inj translation]

end Fate

namespace Adapter

variable {W : Type} (a : Adapter W)

/-! ## The recorder -/

/-- An adapter with a record of what it does, the latest first. -/
def recorded : Adapter (W × List Step) where
  translator := a.translator
  sender.send event := (a.sender.send event).noted (.sent event)
  count counter := (a.count counter).noted fun _ => .counted counter

/-- What an adapter does while it answers a request, in this order. -/
def steps (r : Http.Inbound) (w : W) : List Step := (a.recorded.serve r (w, [])).2.2.reverse

theorem count_recorded (counter : Counter) :
    (a.recorded.count counter).Shadows (a.count counter) :=
  .of_simulates (Act.simulates_noted _ (a.count counter))

theorem send_recorded (event : Event) :
    (a.recorded.sender.send event).Shadows (a.sender.send event) :=
  .of_simulates (Act.simulates_noted _ (a.sender.send event))

theorem receive_recorded (headers : Http.Headers) (body : ByteArray) :
    (a.recorded.receive headers body).Shadows (a.receive headers body) := by
  unfold receive
  rw [show a.recorded.translator = a.translator from rfl]
  cases a.translator.translate headers body with
  | error e => exact (a.count_recorded _).bind fun _ => .pure _
  | ok event =>
    refine (a.send_recorded event).bind fun answer => ?_
    cases answer with
    | error e => exact (a.count_recorded _).bind fun _ => .pure _
    | ok u => exact (a.count_recorded _).bind fun _ => .pure _

/-- **Recorders change nothing**: a recorded adapter answers as it would without, and leaves the
same world behind. -/
theorem serve_recorded (r : Http.Inbound) : (a.recorded.serve r).Shadows (a.serve r) := by
  unfold serve
  split
  · split
    · exact .pure _
    · split
      · exact .pure _
      · exact a.receive_recorded _ _
  · cases Http.probe? r <;> exact .pure _

/-! ## Deliveries -/

section Posted

variable {a} {r : Http.Inbound} (posted : r.method = "POST") (root : r.route = "/")
include posted root

theorem serve_eq_receive (fits : r.body.size ≤ maxPayload) :
    a.serve r = a.receive r.headers r.body := by
  rw [serve, if_pos root, if_neg (fun other => other posted), if_neg (Nat.not_lt.2 fits)]

theorem serve_of_large (large : maxPayload < r.body.size) (w : W) : a.serve r w =
    (Reply.text 413 "Failed to buffer the request body: length limit exceeded", w) := by
  rw [serve, if_pos root, if_neg (fun other => other posted), if_pos large]
  rfl

end Posted

/-- A delivery is answered by its fate, and what is done for it goes with that. -/
theorem exists_fate (headers : Http.Headers) (body : ByteArray) (w : W) :
    ∃ fate : Fate, a.translator.translate headers body = fate.translation ∧
      (a.recorded.receive headers body (w, [])).1.status = fate.status ∧
      (a.recorded.receive headers body (w, [])).2.2.reverse = fate.steps := by
  unfold receive
  rw [show a.recorded.translator = a.translator from rfl]
  cases a.translator.translate headers body with
  | error e => exact ⟨.rejected e, rfl, rfl, rfl⟩
  | ok event =>
    dsimp only
    rw [Act.bind_apply]
    rcases sent : a.recorded.sender.send event (w, []) with ⟨answer, s⟩
    have log : s.2 = [.sent event answer] := by
      cases sent
      rfl
    cases answer with
    | error e =>
      refine ⟨.unsent event e, rfl, rfl, ?_⟩
      show (Step.counted .sendFailure :: s.2).reverse = _
      rw [log]
      rfl
    | ok u =>
      refine ⟨.acknowledged event, rfl, rfl, ?_⟩
      show (Step.counted (.eventReceived event.type) :: s.2).reverse = _
      rw [log]
      rfl

end Adapter

/-! ## Deliveries over HTTP -/

section OverHttp

variable {W : Type} {net : Http.Network W} {stamp : Act W Stamp} {sink : Url} {event : Event}
  {w w' : W}

/-- **An event was acknowledged over HTTP**: it was put into a request, and the one response to that
request has a status of success. -/
inductive Sender.Exchanged (net : Http.Network W) (stamp : Act W Stamp) (sink : Url)
    (event : Event) (w w' : W) : Prop where
  | intro {s : Stamp} {w₁ : W} {response : Http.Response} (stamped : stamp w = (s, w₁))
      (built : Http.buildFailure? (eventRequest sink s event) = none)
      (exchanged : net.exchange (eventRequest sink s event) w₁ = (some response, w'))
      (success : 200 ≤ response.status ∧ response.status < 300)

/-- A sender over HTTP acknowledges an event exactly if the sink does. -/
theorem Sender.overHttp_ok_iff : (Sender.overHttp net stamp sink).send event w = (.ok (), w') ↔
    Sender.Exchanged net stamp sink event w w' := by
  constructor
  · intro sent
    rw [overHttp] at sent
    dsimp only at sent
    rw [Act.bind_apply] at sent
    rcases stamped : stamp w with ⟨s, w₁⟩
    rw [stamped, Act.bind_apply, Http.send] at sent
    cases built : Http.buildFailure? (eventRequest sink s event) with
    | some f =>
      rw [built] at sent
      cases sent
    | none =>
      rw [built] at sent
      dsimp only at sent
      rw [Act.bind_apply] at sent
      rcases exchanged : net.exchange (eventRequest sink s event) w₁ with ⟨answer, w₂⟩
      rw [exchanged] at sent
      cases answer with
      | none => cases sent
      | some response =>
        dsimp only [Act.pure_apply] at sent
        split at sent
        · next success =>
          cases sent
          exact .intro stamped built exchanged (by simpa [Http.isSuccess] using success)
        · cases sent
  · rintro ⟨stamped, built, exchanged, success⟩
    simp [overHttp, stamped, Http.send, built, exchanged, Http.isSuccess, success]

/-- **A sink acknowledged a delivery over HTTP**: the one response to a request with its bytes has a
status of success. Nothing else happens to the world but that this is counted. -/
inductive Adapter.Delivered (a : Adapter W) (net : Http.Network W) (stamp : Act W Stamp)
    (sink : Url) (r : Http.Inbound) (w w' : W) : Prop where
  | intro {event : Event} {s : Stamp} {w₁ w₂ : W} {response : Http.Response}
      (translated : a.translator.translate r.headers r.body = .ok event)
      (stamped : stamp w = (s, w₁))
      (built : Http.buildFailure? (eventRequest sink s event) = none)
      (exchanged : net.exchange (eventRequest sink s event) w₁ = (some response, w₂))
      (success : 200 ≤ response.status ∧ response.status < 300)
      (carried : (eventRequest sink s event).body = some r.body)
      (counted : w' = (a.count (.eventReceived event.type) w₂).2)

end OverHttp

namespace Adapter

variable {W : Type} {a : Adapter W} {r : Http.Inbound}

/-- A delivery is answered with 202 exactly if its event was acknowledged. -/
theorem receive_status_iff {w : W} : (a.receive r.headers r.body w).1.status = 202 ↔
    ∃ event w₂, a.translator.translate r.headers r.body = .ok event ∧
      a.sender.send event w = (.ok (), w₂) ∧
      (a.receive r.headers r.body w).2 = (a.count (.eventReceived event.type) w₂).2 := by
  unfold receive
  cases a.translator.translate r.headers r.body with
  | error e => simp [Reply.text]
  | ok event =>
    dsimp only
    rw [Act.bind_apply]
    rcases sent : a.sender.send event w with ⟨answer, w₂⟩
    cases answer with
    | error e =>
      refine iff_of_false (show 500 ≠ 202 by decide) ?_
      rintro ⟨event', w₂', translated, acknowledged, -⟩
      cases translated
      rw [sent] at acknowledged
      cases acknowledged
    | ok u => exact iff_of_true rfl ⟨event, w₂, rfl, sent, rfl⟩

/-- **A delivery has one fate, and is answered by it.** It is rejected, or its event is given to the
sender once; the answer, and the one counter that goes up, say how that ended. Over HTTP, a delivery
that is answered with 202 was acknowledged by the sink in the one exchange that there was. A delivery
that is too large is refused, and nothing is done for it. -/
theorem serve_delivery (a : Adapter W) {r : Http.Inbound} (posted : r.method = "POST")
    (root : r.route = "/") (w : W) :
    (r.body.size ≤ 25 * 1024 * 1024 →
      (∃! fate : Fate, a.translator.translate r.headers r.body = fate.translation ∧
        (a.serve r w).1.status = fate.status ∧ a.steps r w = fate.steps) ∧
      ∀ net stamp sink, a.sender = .overHttp net stamp sink →
        ((a.serve r w).1.status = 202 ↔ a.Delivered net stamp sink r w (a.serve r w).2)) ∧
    (25 * 1024 * 1024 < r.body.size →
      a.serve r w =
        (Reply.text 413 "Failed to buffer the request body: length limit exceeded", w) ∧
      a.steps r w = []) := by
  refine ⟨fun fits => ⟨?_, fun net stamp sink overHttp => ?_⟩, fun large => ⟨?_, ?_⟩⟩
  · obtain ⟨fate, translation, status, steps⟩ := a.exists_fate r.headers r.body w
    have answered : (a.serve r w).1.status = fate.status := by
      rw [← (a.serve_recorded r (w, [])).1, serve_eq_receive posted root fits]
      exact status
    have done : a.steps r w = fate.steps := by
      rw [Adapter.steps, serve_eq_receive posted root fits]
      exact steps
    refine ⟨fate, ⟨translation, answered, done⟩, ?_⟩
    rintro fate' ⟨translation', -, steps'⟩
    exact Fate.eq_of_steps (translation'.symm.trans translation) (steps'.symm.trans done)
  · rw [serve_eq_receive posted root fits, receive_status_iff]
    constructor
    · rintro ⟨event, w₂, translated, sent, counted⟩
      rw [overHttp, Sender.overHttp_ok_iff] at sent
      obtain ⟨stamped, built, exchanged, success⟩ := sent
      have carried := congrArg some (Translator.data_of_translate translated)
      exact .intro translated stamped built exchanged success carried counted
    · rintro ⟨translated, stamped, built, exchanged, success, carried, counted⟩
      refine ⟨_, _, translated, ?_, counted⟩
      rw [overHttp]
      exact Sender.overHttp_ok_iff.2 (.intro stamped built exchanged success)
  · exact serve_of_large posted root large w
  · rw [Adapter.steps, serve_of_large posted root large]
    rfl

/-! ### A sink that acknowledges -/

/-- A network whose world is how often it was used, and that answers with one status. -/
def answering (status : Nat) : Http.Network Nat :=
  ⟨fun _ n => (some ⟨status, ByteArray.empty⟩, n + 1)⟩

/-- What is given to every event alike. -/
def alike : Act Nat Stamp := pure ⟨"1", "2024-01-01T00:00:00.000Z"⟩

/-- The address of a sink. -/
def broker : Url := ⟨"http", some ⟨"", "", .domain "broker", none⟩, .segments [""], none, none⟩

/-- An adapter that asks for no secret, and has a sink that acknowledges all events. -/
def unlocked : Adapter Nat where
  translator := ⟨"", "http://gitlab/a/b"⟩
  sender := .overHttp (answering 200) alike broker
  count _ := pure ()

/-- A push with an empty payload. -/
def push : Http.Inbound :=
  ⟨"POST", "/?a=b", [(eventHeader, HookRelay.Event.Category.push.header.toUTF8)],
    Translator.emptyObject⟩

theorem translated_push : unlocked.translator.translate push.headers push.body =
    .ok ⟨HookRelay.Event.eventType "push", "http://gitlab/a/b", "Push Hook", push.body⟩ := by
  refine Translator.translate_ok_iff.2 ⟨rfl, Translator.checkPayload_emptyObject, "Push Hook", "push",
    ?_, rfl⟩
  exact (Translator.reads_header_iff Http.Headers.get?_cons_self).2 ⟨by decide, rfl⟩

/-- A push is sent to the broker once, and acknowledged. -/
theorem delivered_push :
    (∃! fate : Fate, unlocked.translator.translate push.headers push.body = fate.translation ∧
      (unlocked.serve push 0).1.status = fate.status ∧ unlocked.steps push 0 = fate.steps) ∧
    (unlocked.serve push 0).1.status = 202 ∧ (unlocked.serve push 0).2 = 1 ∧
    unlocked.Delivered (answering 200) alike broker push 0 1 := by
  have posted : push.method = "POST" := rfl
  have root : push.route = "/" := by decide +kernel
  have fits : push.body.size ≤ 25 * 1024 * 1024 := by decide +kernel
  have built : Http.buildFailure? (eventRequest broker ⟨"1", "2024-01-01T00:00:00.000Z"⟩
      ⟨HookRelay.Event.eventType "push", "http://gitlab/a/b", "Push Hook", push.body⟩) = none := by
    decide +kernel
  have served : unlocked.serve push 0 = (Reply.empty 202, 1) := by
    rw [serve_eq_receive posted root fits, receive, translated_push]
    simp [unlocked, Sender.overHttp, alike, Http.send, built, answering, Http.isSuccess]
  obtain ⟨once, overHttp⟩ := (serve_delivery unlocked posted root 0).1 fits
  have acknowledged := overHttp _ _ _ rfl
  rw [served] at acknowledged
  exact ⟨once, by rw [served]; rfl, by rw [served], acknowledged.1 rfl⟩

end Adapter

end HookRelay.Delivery

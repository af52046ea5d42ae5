import HookRelay.Delivery.Sender
import HookRelay.Delivery.Settings
import HookRelay.Http.Probes
import HookRelay.Metrics

/-!
# The receive adapter

The receive adapter answers a delivery only after the sink acknowledged its event, so that a failure
to send is a failed delivery, which can be repeated. Each delivery is counted once: as received, as
rejected, or as a failure to send (`Counter.eventReceived`, `Counter.requestRejected`,
`Counter.sendFailure`).

## Main definitions

* `Adapter` : an adapter with its collaborators
* `Settings.translator` : the translator with which it is started
* `Adapter.receive` : one delivery
* `Adapter.serve` : one request of any kind
-/

namespace HookRelay.Delivery

/-- The largest body of a delivery: 25 MiB. -/
def maxPayload : Nat := 25 * 1024 * 1024

/-- A receive adapter with its collaborators. -/
structure Adapter (W : Type) where
  translator : Translator
  sender : Sender W
  count : Counter → Act W Unit

/-- The translator with which an adapter is started. -/
def Settings.translator (told : Settings) : Translator := ⟨told.secretToken, told.eventSource⟩

namespace Adapter

variable {W : Type}

/-- Handles a delivery: it is translated by `Translator.translate`, and its event sent. -/
def receive (a : Adapter W) (headers : Http.Headers) (body : ByteArray) : Act W Http.Reply := do
  match a.translator.translate headers body with
  | .error e =>
    a.count (.requestRejected e.reason)
    return .text 400 ("could not parse the webhook event: " ++ e.message)
  | .ok event =>
    match ← a.sender.send event with
    | .error e =>
      a.count .sendFailure
      return .text 500 ("error handling the event: " ++ e.message)
    | .ok () =>
      a.count (.eventReceived event.type)
      return .empty 202

/-- Handles a request: deliveries are posted to `/`, the probes are read. -/
def serve (a : Adapter W) (r : Http.Inbound) : Act W Http.Reply := do
  if r.route = "/" then
    if r.method ≠ "POST" then return .notAllowed "POST"
    else if r.body.size > maxPayload then
      return .text 413 "Failed to buffer the request body: length limit exceeded"
    else a.receive r.headers r.body
  else
    match Http.probe? r with
    | some reply => return reply
    | none => return .empty 404

end Adapter

end HookRelay.Delivery

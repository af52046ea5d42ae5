import HookRelay.Delivery.Translate
import HookRelay.Http.Network

/-!
# Sending events

An event is sent to its sink as one HTTP request, a CloudEvent in binary mode: its attributes are
headers that begin with `ce-`, and the body of the delivery is the body of the request. The sink
acknowledges an event by any status of success.

## Main definitions

* `Sender` : what events are given to
* `Sender.overHttp` : sends events as requests
-/

namespace HookRelay.Delivery

/-- Why an event was not acknowledged. -/
inductive SendFailure where
  | transport (cause : Http.Failure)
  | rejected (status : Nat)
  deriving DecidableEq, Repr

/-- The wording of a failure. -/
def SendFailure.message : SendFailure → String
  | .transport cause => s!"failed to reach sink: {cause.message}"
  | .rejected status => s!"sink responded with {status}"

/-- What events are given to; it succeeds only if the sink acknowledged the event. -/
structure Sender (W : Type) where
  send : Event → Act W (Except SendFailure Unit)

/-- The number and the time that are given to an event when it is sent: `ce-id` and `ce-time`. -/
structure Stamp where
  id : String
  time : String

/-- The request that carries an event. -/
def eventRequest (sink : Url) (stamp : Stamp) (e : Event) : Http.Request where
  method := "POST"
  url := sink
  headers := [("ce-specversion", "1.0"), ("ce-id", stamp.id), ("ce-type", e.type),
    ("ce-source", e.source), ("ce-time", stamp.time), ("ce-event", e.header),
    ("content-type", "application/json")]
  body := some e.data

/-- Sends events as requests to a sink. -/
def Sender.overHttp {W : Type} (net : Http.Network W) (stamp : Act W Stamp) (sink : Url) :
    Sender W where
  send := fun e => do
    match ← Http.send net (eventRequest sink (← stamp) e) with
    | .error cause => return .error (.transport cause)
    | .ok response =>
      if Http.isSuccess response.status then return .ok ()
      else return .error (.rejected response.status)

end HookRelay.Delivery

import HookRelay.Admission.Format
import HookRelay.Http.MediaType
import HookRelay.Http.Probes
import HookRelay.Json.Printer

/-!
# The server of the controller

Beside the probes the controller has a sign that it is ready to work, `/readyz`, and answers
questions of admission, which are posted to `/validate` as JSON.

## Main definitions

* `answerQuestion` : the answer to a posted question
* `serve` : the answer to a request of any kind
-/

namespace HookRelay.Controller

/-- The largest body of a question: 2 MiB. -/
def maxQuestion : Nat := 2 * 1024 * 1024

/-- Whether headers say that the body is JSON. -/
def announcesJson (hs : Http.Headers) : Bool :=
  match ((hs.get? "content-type").bind Http.visibleText?).bind Http.MediaType.read with
  | some m => m.isJson
  | none => false

/-- The reply to a body that is no question: one that is no JSON is told apart from one that does
not fit. -/
def refuseBody : Json.Mismatch → Http.Reply
  | .unreadable stop =>
    .text 400 ("Failed to parse the request body as JSON: " ++ stop.fault.message)
  | e => .text 422 ("Failed to deserialize the JSON body into the target type: " ++ e.message)

/-- The reply to a posted question. -/
def answerQuestion (r : Http.Inbound) : Http.Reply :=
  if !announcesJson r.headers then
    .text 415 "Expected request with `Content-Type: application/json`"
  else if maxQuestion < r.body.size then
    .text 413 "Failed to buffer the request body: length limit exceeded"
  else
    match Json.decodeText Admission.Question.read r.body with
    | .error e => refuseBody e
    | .ok question => .json question.verdict.toJson

/-- The reply to a request of any kind. -/
def serve (ready : Bool) (r : Http.Inbound) : Http.Reply :=
  if r.route = "/readyz" then Http.routeGet r (.empty (if ready then 200 else 503))
  else if r.route = "/validate" then
    if r.method = "POST" then answerQuestion r else .notAllowed "POST"
  else (Http.probe? r).getD (.empty 404)

end HookRelay.Controller

import HookRelay.Event.Header
import HookRelay.Http.Message
import HookRelay.Json.Document
import HookRelay.Text.Blank
import HookRelay.Text.Quoted

/-!
# From deliveries to events

A delivery is a set of headers and a body. It becomes a CloudEvent if it carries the secret in
`X-Gitlab-Token`, names a known kind of payload in `X-Gitlab-Event`, and has a JSON object as its
body. The checks run in this order and stop at the first failure: nothing of a delivery is looked
into before its secret was found to be right.

## Main definitions

* `Event` : what is sent to the sink
* `Rejection` : the check that failed
* `Translator.translate` : applies the checks
-/

namespace HookRelay.Delivery

/-- A CloudEvent that is ready to be sent. -/
structure Event where
  type : String
  /-- The address of the project or group. -/
  source : String
  /-- The `eventHeader` as it was received, which becomes `ce-event`. -/
  header : String
  /-- The body as it was received. -/
  data : ByteArray

/-- The check that a delivery failed. -/
inductive Rejection where
  | unauthorized
  | missingHeader
  | invalidHeader (header : String)
  | unknownType (header : String)
  | emptyBody
  | invalidPayload (fault : Json.ReadError)
  | notAnObject
  deriving DecidableEq, Repr

/-- The wording of a rejection. -/
def Rejection.message : Rejection → String
  | .unauthorized => "invalid or missing X-Gitlab-Token header"
  | .missingHeader => "missing X-Gitlab-Event header"
  | .invalidHeader header => s!"invalid X-Gitlab-Event header {Text.quote header}"
  | .unknownType header => s!"event type {Text.quote header} not defined to be parsed"
  | .emptyBody => "empty request body"
  | .invalidPayload fault => s!"invalid JSON payload: {fault.message}"
  | .notAnObject => "payload is not a JSON object"

/-- The label `reason` under which rejections are counted. -/
def Rejection.reason : Rejection → String
  | .unauthorized => "unauthorized"
  | .missingHeader | .invalidHeader _ => "invalid_header"
  | .unknownType _ => "unknown_event_type"
  | .emptyBody => "empty_body"
  | .invalidPayload _ | .notAnObject => "invalid_payload"

/-- The header that carries the secret, `X-Gitlab-Token`. -/
def tokenHeader : String := "x-gitlab-token"

/-- The header that names the event, `X-Gitlab-Event`. -/
def eventHeader : String := "x-gitlab-event"

/-- What stands in a message for a header that is no text. -/
def nonAscii : String := "<non-ascii>"

/-- What an adapter is set up with. -/
structure Translator where
  /-- The secret that deliveries carry; none is asked for if it is empty. -/
  secret : String
  /-- The address of the project or group. -/
  source : String

namespace Translator

/-- Whether the secret of a delivery is right; a missing header counts as an empty one. -/
def authenticates (t : Translator) (headers : Http.Headers) : Bool :=
  t.secret.isEmpty
    || (headers.get? tokenHeader).getD ByteArray.empty == t.secret.toUTF8

/-- The `eventHeader` of a delivery, and the kind of payload that it names. -/
def readHeader (headers : Http.Headers) : Except Rejection (String × String) :=
  match headers.get? eventHeader with
  | none => .error .missingHeader
  | some value =>
    match Http.visibleText? value with
    | none => .error (.invalidHeader nonAscii)
    | some header =>
      if Text.isAllBlank header then .error .missingHeader
      else
        match Event.kindOfHeader? header with
        | none => .error (.invalidHeader header)
        | some kind =>
          if Event.isKnownKind kind then .ok (header, kind) else .error (.unknownType header)

/-- The payload must be a JSON object. -/
def checkPayload (body : ByteArray) : Except Rejection Unit :=
  if body.size = 0 then .error .emptyBody
  else
    match Json.parse body with
    | .error fault => .error (.invalidPayload fault)
    | .ok payload => if payload.isObject then .ok () else .error .notAnObject

/-- The event of a delivery, or the first check that it fails. -/
def translate (t : Translator) (headers : Http.Headers) (body : ByteArray) :
    Except Rejection Event := do
  if !t.authenticates headers then .error .unauthorized
  let (header, kind) ← readHeader headers
  checkPayload body
  .ok ⟨Event.eventType kind, t.source, header, body⟩

/-- A translator on one line, without its secret. -/
def describe (t : Translator) : String :=
  Text.record "Translator" [("event_source", Text.quote t.source),
    ("authenticated", if t.secret.isEmpty then "false" else "true")]

end Translator

end HookRelay.Delivery

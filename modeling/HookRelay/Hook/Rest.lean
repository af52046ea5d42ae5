import HookRelay.Hook.Basic
import HookRelay.Json.Decode
import HookRelay.Json.Printer
import HookRelay.Text.Lossy

/-!
# The hooks interface of GitLab

The hooks of a project or group have one address each, `api/v4/projects/:path/hooks/:id` or the same
below `groups`, where the full path of the project or group is written as a single segment. Requests
carry the access token in the header `PRIVATE-TOKEN`.

## Main definitions

* `hooksUrl`, `hookUrl` : the address of all hooks, and of one
* `Client.rest` : a client that sends requests
* `Provider.rest` : hands out such clients
-/

namespace HookRelay.Hook

open Json (Decoder Record)

/-- The address of the hooks of a project or group. -/
def hooksUrl (s : Scope) : Except Error Url :=
  match Url.parse s.baseUrl with
  | .error fault => .error (.invalidUrl (s.baseUrl ++ ": " ++ fault.message))
  | .ok url =>
    match url.path with
    | .plain _ => .error (.invalidUrl s.baseUrl)
    | .segments _ =>
      .ok ((["api", "v4", s.collection, s.path, "hooks"]).foldl (fun u p => u.pushSegment p)
        url.popEmptySegment)

/-- The address of one hook. -/
def hookUrl (hooks : Url) (id : Int) : Url := hooks.pushSegment (toString id)

/-- How the controller calls itself. -/
def userAgent : String := "gitlab-source-controller/0.1.0"

/-- A request about hooks. -/
def request (token method : String) (url : Url) (options : Option Options) : Http.Request where
  method := method
  url := url
  headers := [("private-token", token), ("user-agent", userAgent)]
    ++ (if options.isSome then [("content-type", "application/json")] else [])
  body := options.map fun o => o.toJson.render.toUTF8

/-- What GitLab says about a refusal: a `message` or an `error`. -/
structure Refusal where
  message : Option Json
  error : Option String

/-- Reads a refusal. -/
def Refusal.record : Record Refusal where
  what := "struct ErrorResponse"
  blank := ⟨none, none⟩
  fields := [
    .may "message" (.optional .value) (fun v r => { r with message := v }),
    .may "error" (.optional .text) (fun v r => { r with error := v })]

/-- The words of a refusal: its message, or its error, or the whole body. -/
def refusalText (body : ByteArray) : String :=
  let text := Text.shown body
  match Json.decodeText Refusal.record.decode text.toUTF8 with
  | .ok ⟨some (.string message), _⟩ => message
  | .ok ⟨some other, _⟩ => other.render
  | .ok ⟨none, some error⟩ => error
  | _ => Text.trim text

/-- Reads a hook. -/
def Reported.record : Record Reported where
  what := "struct HookResponse"
  blank := ⟨0, ""⟩
  fields := [
    .must "id" .int64 (fun v h => { h with id := v }),
    .may "url" .text (fun v h => { h with url := v })]

/-- A response of success, or the error that a response stands for: `404` says that the hook is
gone, if the request was about one and its number `id` is known, and `401` and `403` deny access. -/
def check (id : Option Int) (r : Http.Response) : Except Error Http.Response :=
  if Http.isSuccess r.status then .ok r
  else
    match r.status, id with
    | 404, some id => .error (.notFound id)
    | 401, _ | 403, _ => .error (.denied r.status (refusalText r.body))
    | _, _ => .error (.refused r.status (refusalText r.body))

/-- The hook that a response reports. -/
def reported (id : Option Int) (r : Http.Response) : Except Error Reported :=
  match check id r with
  | .error e => .error e
  | .ok r =>
    match Json.decodeText Reported.record.decode r.body with
    | .ok hook => .ok hook
    | .error _ => .error (.transport .undecodable)

variable {W : Type}

/-- Sends a request and reads the response. -/
def ask {α : Type} (net : Http.Network W) (r : Http.Request)
    (read : Http.Response → Except Error α) : Act W (Except Error α) := do
  match ← Http.send net r with
  | .error cause => return .error (.transport cause)
  | .ok response => return read response

/-- A client that sends requests to an address of hooks. -/
def Client.rest (net : Http.Network W) (hooks : Url) (token : String) : Client W where
  get := fun id => ask net (request token "GET" (hookUrl hooks id) none) (reported (some id))
  create := fun o => ask net (request token "POST" hooks (some o)) (reported none)
  edit := fun id o =>
    ask net (request token "PUT" (hookUrl hooks id) (some o)) (reported (some id))
  delete := fun id =>
    ask net (request token "DELETE" (hookUrl hooks id) none)
      (fun r => (check (some id) r).map fun _ => ())

/-- Hands out clients that send requests over a network. -/
def Provider.rest (net : Http.Network W) : Provider W where
  client := fun scope token => pure ((hooksUrl scope).map fun url => Client.rest net url token)

/-- A client on one line; the token is not shown. -/
def describeClient (hooks : Url) : String :=
  Text.recordInPart "GitLabClient"
    [("hooks_url", Text.quote hooks.render), ("access_token", "\"***\"")]

end HookRelay.Hook

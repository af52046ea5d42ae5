import HookRelay.Json.Decode
import HookRelay.Json.Patch
import HookRelay.Json.Printer
import HookRelay.World.Act

/-!
# Requests to the cluster

The cluster keeps objects under paths and answers requests about them. A path is written into a
request as it is, so a name with characters that no address may hold makes a request that cannot
be sent; what follows a question mark is not part of the path.

## Main definitions

* `Request`, `Response` : what goes to the cluster and what comes back
* `Api` : a cluster, as what answers requests
* `Error` : why there is no usable answer
-/

namespace HookRelay.Cluster

open Json (Decoder Record)

/-- What a request asks for. -/
inductive Request.Content where
  | read
  | create (object : Json)
  /-- A change by a patch that is merged (`Json.merge`). -/
  | merge (patch : Json)
  /-- A change by the operations of a `Json.Patch`. -/
  | operations (patch : Json.Patch)

/-- A request. -/
structure Request where
  path : String
  query : Option String
  content : Request.Content

namespace Request.Content

/-- The method of a request. -/
def method : Request.Content → String
  | read => "GET"
  | create _ => "POST"
  | merge _ | operations _ => "PATCH"

/-- The `Content-Type` of a patch. -/
def patchType? : Request.Content → Option String
  | read | create _ => none
  | merge _ => some "application/merge-patch+json"
  | operations _ => some "application/json-patch+json"

/-- The body of a request. -/
def body? : Request.Content → Option Json
  | read => none
  | create object => some object
  | merge patch => some patch
  | operations patch => some patch.toJson

end Request.Content

/-- The body of a response. -/
inductive Body where
  | json (j : Json)
  | text (s : String)
  deriving DecidableEq, Repr

/-- The body as text. -/
def Body.render : Body → String
  | .json j => j.render
  | .text s => s

/-- Reads a body. -/
def Body.decode {α : Type} (read : Decoder α) : Body → Except Json.Mismatch α
  | .json j => Json.decode read j
  | .text s => Json.decodeText read s.toUTF8

/-- A response. -/
structure Response where
  status : Nat
  body : Body
  deriving DecidableEq, Repr

/-- A cluster. -/
structure Api (W : Type) where
  send : Request → Act W Response

/-- Why there is no usable answer. -/
inductive Error where
  /-- The cluster refused the request. -/
  | refused (code : Nat) (message reason : String)
  /-- The answer has not the expected form. -/
  | undecodable
  /-- The path holds a character that no address may hold. -/
  | illegalPath
  /-- The name of the object is empty. -/
  | unnamed
  /-- A line of the answer does not end. -/
  | endlessLine
  deriving DecidableEq, Repr

namespace Error

/-- What lies behind an error, in steps from the outside to the inside. -/
def causes : Error → List String
  | refused _ message reason => [s!"{message}: {reason}"]
  | undecodable => []
  | illegalPath => ["failed to build request: invalid uri character", "invalid uri character"]
  | unnamed => ["failed to validate request: A non-empty name is required"]
  | endlessLine => []

/-- The wording of an error. -/
def message : Error → String
  | refused _ message reason => s!"ApiError: {message}: {reason}"
  | undecodable => "Error deserializing response"
  | illegalPath => "Failed to build request: failed to build request: invalid uri character"
  | unnamed =>
    "Failed to build request: failed to validate request: A non-empty name is required"
  | endlessLine => "Error finding newline character"

/-- Whether the cluster answered with the reason `NotFound`. -/
def isNotFound : Error → Bool
  | refused _ _ reason => reason = "NotFound"
  | _ => false

end Error

/-- What a refusal says: the fields of a `Status` of failure. -/
structure Refusal where
  message : String
  reason : String
  code : Nat

/-- Reads a `Status` of failure. -/
def Refusal.record : Record Refusal where
  what := "struct ErrorResponse"
  blank := ⟨"", "", 0⟩
  fields := [
    .must "status" .text (fun _ r => r),
    .may "message" .text (fun v r => { r with message := v }),
    .may "reason" .text (fun v r => { r with reason := v }),
    .must "code" .nat16 (fun v r => { r with code := v })]

/-- The error that a response with a status of failure stands for. A body that is no refusal is
quoted. -/
def Response.refusal (r : Response) : Error :=
  match r.body.decode Refusal.record.decode with
  | .ok f => .refused f.code f.message f.reason
  | .error _ => .refused r.status (Text.quote r.body.render) "Failed to parse error data"

/-- Reads a response. -/
def Response.decode {α : Type} (read : Decoder α) (r : Response) : Except Error α :=
  if 400 ≤ r.status && r.status < 600 then .error r.refusal
  else
    match r.body.decode read with
    | .ok a => .ok a
    | .error _ => .error .undecodable

/-! ## Paths -/

/-- Whether a character may stand in a path. -/
def isPathChar (c : Char) : Bool :=
  let n := c.toNat
  n = 0x21 || n = 0x22 || (0x24 ≤ n && n ≤ 0x3B) || n = 0x3D || (0x40 ≤ n && n ≤ 0x5F)
    || (0x61 ≤ n && n ≤ 0x7E) || 0x7F ≤ n

/-- Whether a character may stand in a query. -/
def isQueryChar (c : Char) : Bool :=
  let n := c.toNat
  n = 0x21 || (0x24 ≤ n && n ≤ 0x3B) || n = 0x3D || (0x3F ≤ n && n ≤ 0x7E) || 0x7F ≤ n

/-- A path and a query as they are written into a request; nothing behind a number sign is. -/
def target? (written : String) : Option (String × Option String) :=
  let cs := written.toList.takeWhile (· != '#')
  let path := cs.takeWhile (· != '?')
  match cs.dropWhile (· != '?') with
  | [] => if path.all isPathChar then some (String.ofList path, none) else none
  | _ :: query =>
    if path.all isPathChar && query.all isQueryChar then
      some (String.ofList path, if query.isEmpty then none else some (String.ofList query))
    else none

namespace Api

variable {W : Type}

/-- Sends a request to a written path and reads the answer. -/
def call {α : Type} (api : Api W) (written : String) (content : Request.Content)
    (read : Decoder α) : Act W (Except Error α) := do
  match target? written with
  | none => return .error .illegalPath
  | some (path, query) =>
    let response ← api.send ⟨path, query, content⟩
    return response.decode read

/-- The object of a name below a path. -/
def get {α : Type} (api : Api W) (path name : String) (read : Decoder α) :
    Act W (Except Error α) :=
  if name.isEmpty then pure (.error .unnamed) else api.call (path ++ "/" ++ name) .read read

/-- The object of a name below a path, if there is one. -/
def get? {α : Type} (api : Api W) (path name : String) (read : Decoder α) :
    Act W (Except Error (Option α)) := do
  match ← api.get path name read with
  | .ok a => return .ok (some a)
  | .error e => if e.isNotFound then return .ok none else return .error e

/-- Adds an object below a path. -/
def create {α : Type} (api : Api W) (path : String) (object : Json) (read : Decoder α) :
    Act W (Except Error α) := api.call path (.create object) read

/-- Changes the object of a name below a path, or the part of it that a suffix names. -/
def change {α : Type} (api : Api W) (path name part : String) (content : Request.Content)
    (read : Decoder α) : Act W (Except Error α) :=
  if name.isEmpty then pure (.error .unnamed)
  else api.call (path ++ "/" ++ name ++ part) content read

end Api

end HookRelay.Cluster

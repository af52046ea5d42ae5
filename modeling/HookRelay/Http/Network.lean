import HookRelay.Http.Message
import HookRelay.World.Act

/-!
# Sending requests

A request is first built, which fails if a header's value is not legal or the address cannot be
requested; only then is it handed to the network, which may fail to bring back a response.

## Main definitions

* `Network` : what carries requests
* `Failure` : why there is no response
* `send` : builds a request and sends it
-/

namespace HookRelay.Http

/-- What carries requests; there is no response if the connection fails. -/
structure Network (W : Type) where
  exchange : Request → Act W (Option Response)

/-- Why there is no usable response. -/
inductive Failure where
  /-- A header's value is not legal. -/
  | illegalHeader
  /-- The address cannot be requested. -/
  | illegalUrl (url : Url)
  /-- The connection failed. -/
  | connection (url : Url)
  /-- The body of the response has not the expected form. -/
  | undecodable
  deriving DecidableEq, Repr

/-- The wording of a failure. -/
def Failure.message : Failure → String
  | .illegalHeader => "builder error"
  | .illegalUrl url => s!"builder error for url ({url.render})"
  | .connection url => s!"error sending request for url ({url.render})"
  | .undecodable => "error decoding response body"

/-- Whether a character may stand in the host of a request. -/
def isHostChar (c : Char) : Bool :=
  c.isAlphanum || "!$%&'()*+,-.:;=[]_~".toList.contains c

/-- Whether an address can be requested: over HTTP, at a host whose name a request can carry. -/
def isRequestable (url : Url) : Bool :=
  url.isHttp && (url.hostText?.getD "").toList.all isHostChar

/-- Why a request cannot be built, if it cannot. An address without a host is noticed before the
headers, an address of another scheme after them. -/
def buildFailure? (r : Request) : Option Failure :=
  if r.url.hostText?.isNone then some (.illegalUrl r.url)
  else if !r.headers.all (fun h => isLegalText h.2) then some .illegalHeader
  else if !isRequestable r.url then some (.illegalUrl r.url)
  else none

/-- Builds a request and sends it. -/
def send {W : Type} (net : Network W) (r : Request) : Act W (Except Failure Response) := do
  match buildFailure? r with
  | some f => return .error f
  | none =>
    match ← net.exchange r with
    | some response => return .ok response
    | none => return .error (.connection r.url)

/-- A network that reaches nobody. -/
def Network.unreachable (W : Type) : Network W := ⟨fun _ => pure none⟩

end HookRelay.Http

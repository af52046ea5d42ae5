import HookRelay.Json.Printer
import HookRelay.Url.Basic

/-!
# Messages of HTTP

Requests and responses as the controller and the adapter send and receive them. The names of
headers are compared without regard to the case of ASCII letters; of several headers of one name
the first counts.

## Main definitions

* `Headers`, `Headers.get?` : headers and the one that counts
* `isLegalValue` : bytes that a header may carry
* `Request`, `Response` : what goes out and what comes back
* `Inbound`, `Reply` : what comes in and what is answered
-/

namespace HookRelay.Http

/-- Headers in the order in which they stand. -/
abbrev Headers := List (String × ByteArray)

/-- The value of the header that counts: of several ones of one name, the first. -/
def Headers.get? (name : String) (hs : Headers) : Option ByteArray :=
  (hs.find? fun h => h.1.toLower = name.toLower).map Prod.snd

/-- Whether a byte may stand in the value of a header. -/
def isLegalByte (b : UInt8) : Bool := (32 ≤ b && b ≠ 127) || b = 9

/-- Whether bytes may be the value of a header. -/
def isLegalValue (value : ByteArray) : Bool := value.data.all isLegalByte

/-- A text as the value of a header. -/
def isLegalText (value : String) : Bool := isLegalValue value.toUTF8

/-- Whether a byte is a blank, a tab or visible ASCII. -/
def isVisibleByte (b : UInt8) : Bool := (32 ≤ b && b < 127) || b = 9

/-- The text of a header's value, if it is visible ASCII. -/
def visibleText? (value : ByteArray) : Option String :=
  if value.data.all isVisibleByte then String.fromUTF8? value else none

/-- A request that goes out, to GitLab or to a sink. -/
structure Request where
  method : String
  url : Url
  headers : List (String × String)
  body : Option ByteArray

/-- A response that comes back. -/
structure Response where
  status : Nat
  body : ByteArray

/-- Whether a status means success. -/
def isSuccess (status : Nat) : Bool := 200 ≤ status && status < 300

/-- A request that comes in. -/
structure Inbound where
  method : String
  path : String
  headers : Headers
  body : ByteArray

/-- What is answered to a request that came in. -/
structure Reply where
  status : Nat
  contentType : Option String
  /-- The methods that are allowed, where the method was not. -/
  allow : Option String
  body : String
  deriving DecidableEq, Repr

/-- A reply without a body. -/
def Reply.empty (status : Nat) : Reply := ⟨status, none, none, ""⟩

/-- The type of plain texts. -/
def plainText : String := "text/plain; charset=utf-8"

/-- A reply with a plain text. -/
def Reply.text (status : Nat) (body : String) : Reply := ⟨status, some plainText, none, body⟩

/-- A reply of success with a value. -/
def Reply.json (j : Json) : Reply := ⟨200, some "application/json", none, j.render⟩

/-- The reply to a method that a path does not know. -/
def Reply.notAllowed (allow : String) : Reply := ⟨405, none, some allow, ""⟩

end HookRelay.Http

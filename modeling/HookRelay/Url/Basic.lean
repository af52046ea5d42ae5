import HookRelay.Url.Host

/-!
# Addresses

An address has a scheme and, depending on it, an authority (user, host, port), a path, a query
and a fragment. Its parts are kept in the form in which they are written, so that writing an
address is putting its parts together.

## Main definitions

* `Url` : an address
* `Url.render` : the written form
* `Url.hostText`, `Url.pathText` : two of its parts as texts
-/

namespace HookRelay

/-- Who and where: the part of an address between `//` and the path. -/
structure Url.Authority where
  username : String
  password : String
  host : Url.Host
  /-- The port, unless it is the usual one of the scheme. -/
  port : Option Nat
  deriving DecidableEq, Repr, Inhabited

/-- The path of an address. -/
inductive Url.Path where
  /-- Segments, each behind a slash. -/
  | segments (list : List String)
  /-- A text without structure, as in `mailto:x`. -/
  | plain (text : String)
  deriving DecidableEq, Repr, Inhabited

/-- An address. -/
structure Url where
  scheme : String
  authority : Option Url.Authority
  path : Url.Path
  query : Option String
  fragment : Option String
  deriving DecidableEq, Repr, Inhabited

namespace Url

/-- The kinds of schemes that addresses are read by. -/
inductive SchemeKind where
  /-- A scheme with an authority and a path of segments. -/
  | web
  | file
  | other
  deriving DecidableEq, Repr

/-- The kind of a scheme. -/
def schemeKind (scheme : String) : SchemeKind :=
  if ["http", "https", "ws", "wss", "ftp"].contains scheme then .web
  else if scheme = "file" then .file
  else .other

/-- Whether a backslash counts as a slash. -/
def SchemeKind.isSpecial : SchemeKind → Bool
  | .other => false
  | _ => true

/-- The port that is meant if none is written. -/
def usualPort? (scheme : String) : Option Nat :=
  if scheme = "http" || scheme = "ws" then some 80
  else if scheme = "https" || scheme = "wss" then some 443
  else if scheme = "ftp" then some 21
  else none

/-- The written form of an authority. -/
def Authority.render (a : Authority) : String :=
  let user :=
    if a.username.isEmpty && a.password.isEmpty then ""
    else a.username ++ (if a.password.isEmpty then "" else ":" ++ a.password) ++ "@"
  let port :=
    match a.port with
    | some p => ":" ++ toString p
    | none => ""
  user ++ a.host.render ++ port

/-- The written form of a path. -/
def Path.render : Path → String
  | .segments l => l.foldl (fun acc s => acc ++ "/" ++ s) ""
  | .plain text => text

/-- Whether a path without an authority before it would read as one. -/
def Path.looksLikeAuthority : Path → Bool
  | .segments ("" :: _ :: _) => true
  | _ => false

/-- The written form of an address. -/
def render (u : Url) : String :=
  let authority :=
    match u.authority with
    | some a => "//" ++ a.render
    | none => if u.path.looksLikeAuthority then "/." else ""
  let query :=
    match u.query with
    | some q => "?" ++ q
    | none => ""
  let fragment :=
    match u.fragment with
    | some f => "#" ++ f
    | none => ""
  u.scheme ++ ":" ++ authority ++ u.path.render ++ query ++ fragment

/-- The host as a text, if there is one. -/
def hostText? (u : Url) : Option String :=
  match u.authority with
  | some a => if a.host = .domain "" then none else some a.host.render
  | none => none

/-- The port, unless it is the usual one. -/
def port? (u : Url) : Option Nat := u.authority.bind Authority.port

/-- The path as a text. -/
def pathText (u : Url) : String := u.path.render

/-- Whether an address can be requested over HTTP. -/
def isHttp (u : Url) : Bool := u.scheme = "http" || u.scheme = "https"

end Url

end HookRelay

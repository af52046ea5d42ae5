import HookRelay.Source.Basic
import HookRelay.Text.Blank
import HookRelay.Url.Reader

/-!
# Scopes

A source names its project or its group by the address under which a browser finds it. The
address is split into the GitLab instance and the full path of the project or group on it.

## Main definitions

* `Scope` : a project or a group on an instance
* `Scope.splitUrl` : splits an address into an instance and a path
* `Scope.ofUrl` : the project or group that an address names
* `Source.Spec.scope` : the scope a source asks for
* `Source.Spec.eventSource` : the origin that its events name
-/

namespace HookRelay

/-- What a hook can be registered on: the `projectUrl` of a source names a project, its `groupUrl` a
group. -/
inductive Scope.Kind where
  | project
  | group
  deriving DecidableEq, Repr, Inhabited

/-- A project or a group on a GitLab instance. -/
structure Scope where
  kind : Scope.Kind
  /-- The instance, ending in a slash. -/
  baseUrl : String
  /-- The full path, without slashes around it. -/
  path : String
  deriving DecidableEq, Repr, Inhabited

namespace Scope

/-- The collection under which the interface of GitLab lists projects or groups: `projects` or
`groups`. -/
def Kind.collection : Kind → String
  | .project => "projects"
  | .group => "groups"

/-- The collection of a scope. -/
def collection (s : Scope) : String := s.kind.collection

/-- Why a `projectUrl` or a `groupUrl` names no scope. -/
inductive Fault where
  | unreadable (fault : Url.Fault)
  | notHttp
  | noHost
  | noPath
  deriving DecidableEq, Repr

/-- The wording of a fault. -/
def Fault.message : Fault → String
  | .unreadable f => f.message
  | .notHttp => "scheme must be http or https"
  | .noHost => "missing host"
  | .noPath => "missing project or group path"

/-- A text without the slashes at its ends. -/
def trimSlashes (s : String) : String :=
  let isSlash (c : Char) : Bool := c = '/'
  String.ofList ((((s.toList.dropWhile isSlash).reverse).dropWhile isSlash).reverse)

/-- Splits an address into an instance, ending in a slash, and a path on it, without slashes around
it. -/
def splitUrl (raw : String) : Except Fault (String × String) :=
  match Url.parse raw with
  | .error f => .error (.unreadable f)
  | .ok url =>
    if !url.isHttp then .error .notHttp
    else
      match url.hostText? with
      | none => .error .noHost
      | some host =>
        let path := trimSlashes url.pathText
        if path.isEmpty then .error .noPath
        else
          let port :=
            match url.port? with
            | some p => ":" ++ toString p
            | none => ""
          .ok (url.scheme ++ "://" ++ host ++ port ++ "/", path)

/-- The project or group that an address names. -/
def ofUrl (kind : Kind) (raw : String) : Except Fault Scope :=
  (splitUrl raw).map fun parts => ⟨kind, parts.1, parts.2⟩

end Scope

namespace Source

/-- What is wrong with the way a source names its scope. -/
inductive ScopeFault where
  | missing
  | conflicting
  | invalid (url : String) (why : Scope.Fault)
  deriving DecidableEq, Repr

/-- An optional text without the blanks around it; absent if nothing is left. -/
def nonBlank (text : Option String) : Option String :=
  (text.map Text.trim).filter (fun s => !s.isEmpty)

namespace Spec

/-- The scope a source asks for: exactly one of its `projectUrl` and its `groupUrl` must be set,
blanks counting as absent. -/
def scope (s : Spec) : Except ScopeFault Scope :=
  match nonBlank s.projectUrl, nonBlank s.groupUrl with
  | some url, none => (Scope.ofUrl .project url).mapError (.invalid url)
  | none, some url => (Scope.ofUrl .group url).mapError (.invalid url)
  | some _, some _ => .error .conflicting
  | none, none => .error .missing

/-- The origin that the events of a source name, their `ce-source`: the address of its project or
group. -/
def eventSource (s : Spec) : String :=
  (nonBlank s.projectUrl <|> nonBlank s.groupUrl).getD ""

end Spec

end Source

end HookRelay

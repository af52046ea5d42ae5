import HookRelay.Cluster.Request
import HookRelay.Source.Scope
import HookRelay.Text.Quoted

/-!
# Sinks

A destination, the `sink` of a source, names an object that has an address (`ref`), or gives an
address (`uri`), or gives one relative to that of an object (both). Resolving it yields the address
to which events go, the `sinkUri` of the source.

## Main definitions

* `Error` : why a destination has no address
* `Resolver` : what resolves destinations
* `httpAddress`, `combine` : the address of a destination, from that of its object
-/

namespace HookRelay.Sink

/-- Why a destination has no address. -/
inductive Error where
  /-- The destination is empty. -/
  | missing
  /-- There is no such object. -/
  | notFound (kind namespace_ name : String)
  /-- The object has no address. -/
  | noAddress (kind namespace_ name : String)
  /-- The address is none that events can be sent to. -/
  | invalidUri (uri reason : String)
  /-- The cluster could not be asked. -/
  | unanswered (cause : Cluster.Error)
  deriving DecidableEq, Repr

namespace Error

/-- An object as messages name it. -/
def objectText (kind namespace_ name : String) : String :=
  "sink " ++ kind ++ " \"" ++ namespace_ ++ "/" ++ name ++ "\""

/-- The wording of an error. -/
def message : Error → String
  | missing => "sink has neither a ref nor a uri"
  | notFound kind namespace_ name => objectText kind namespace_ name ++ " not found"
  | noAddress kind namespace_ name =>
    objectText kind namespace_ name ++ " does not expose an address"
  | invalidUri uri reason => s!"sink URI {Text.quote uri} is invalid: {reason}"
  | unanswered cause => s!"failed to read sink: {cause.message}"

/-- Whether the same question may be answered at once, as when the cluster could not be asked; any
other error stays until somebody changes something. -/
def isTransient : Error → Bool
  | unanswered _ => true
  | _ => false

end Error

/-- What resolves destinations of sources in a namespace. -/
structure Resolver (W : Type) where
  resolve : (namespace_ : String) → Destination → Act W (Except Error String)

/-- What is said of an address that is none of the web. -/
def notHttpText : String := "scheme must be http or https"

/-- An address of the web: its scheme is `http` or `https`. -/
def httpAddress (raw : String) : Except Error Url :=
  match Url.parse raw with
  | .error fault => .error (.invalidUri raw fault.message)
  | .ok url => if url.isHttp then .ok url else .error (.invalidUri raw notHttpText)

/-- The address of a destination, from that of its object (`base`) and its own one (`uri`). -/
def combine : (base : Option Url) → (uri : Option String) → Except Error String
  | some base, some uri =>
    match base.join uri with
    | .ok url => .ok url.render
    | .error fault => .error (.invalidUri uri fault.message)
  | some base, none => .ok base.render
  | none, some uri => (httpAddress uri).map Url.render
  | none, none => .error .missing

/-- The address of a destination without an object, or relative to the address of its object; a
blank `uri` counts as absent. -/
def join (base : Option Url) (uri : Option String) : Except Error String :=
  combine base (Source.nonBlank uri)

end HookRelay.Sink

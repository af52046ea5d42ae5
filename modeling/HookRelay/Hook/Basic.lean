import HookRelay.Http.Network
import HookRelay.Metrics
import HookRelay.Source.Scope
import HookRelay.Text.Quoted

/-!
# Hooks

A hook (a webhook of GitLab) makes GitLab deliver the events of a project or group to an address.
Its fields are always written as a whole, so that writing them again undoes every change made
elsewhere.

## Main definitions

* `Flags` : what a hook subscribes to, and `Flags.ofSettings` reading it from names
* `Options` : the fields of a hook, and `Options.pairs` naming them for GitLab
* `Error` : why a hook could not be read or written
* `Client` : the hooks of one project or group
* `Provider` : what hands out clients
-/

namespace HookRelay.Hook

/-- What a hook subscribes to: a flag for each category of events. The names by which the flags are
raised, shown and written are those of `Category.setting`, and each list of them is kept on its
own. -/
structure Flags where
  pushEvents : Bool := false
  tagPushEvents : Bool := false
  issuesEvents : Bool := false
  confidentialIssuesEvents : Bool := false
  noteEvents : Bool := false
  confidentialNoteEvents : Bool := false
  mergeRequestsEvents : Bool := false
  jobEvents : Bool := false
  pipelineEvents : Bool := false
  wikiPageEvents : Bool := false
  deploymentEvents : Bool := false
  releasesEvents : Bool := false
  deriving DecidableEq, Repr

namespace Flags

/-- Sets the flag of a name; a name of no flag is passed over. -/
def raise (f : Flags) : String → Flags
  | "push_events" => { f with pushEvents := true }
  | "tag_push_events" => { f with tagPushEvents := true }
  | "issues_events" => { f with issuesEvents := true }
  | "confidential_issues_events" => { f with confidentialIssuesEvents := true }
  | "note_events" => { f with noteEvents := true }
  | "confidential_note_events" => { f with confidentialNoteEvents := true }
  | "merge_requests_events" => { f with mergeRequestsEvents := true }
  | "job_events" => { f with jobEvents := true }
  | "pipeline_events" => { f with pipelineEvents := true }
  | "wiki_page_events" => { f with wikiPageEvents := true }
  | "deployment_events" => { f with deploymentEvents := true }
  | "releases_events" => { f with releasesEvents := true }
  | _ => f

/-- The flags of the given names, those of `eventTypes`: each is raised in turn. -/
def ofSettings (names : List String) : Flags := names.foldl raise {}

/-- The flags under the names by which `Options.describe` shows them. -/
def fields (f : Flags) : List (String × Bool) :=
  [("push_events", f.pushEvents),
    ("tag_push_events", f.tagPushEvents),
    ("issues_events", f.issuesEvents),
    ("confidential_issues_events", f.confidentialIssuesEvents),
    ("note_events", f.noteEvents),
    ("confidential_note_events", f.confidentialNoteEvents),
    ("merge_requests_events", f.mergeRequestsEvents),
    ("job_events", f.jobEvents),
    ("pipeline_events", f.pipelineEvents),
    ("wiki_page_events", f.wikiPageEvents),
    ("deployment_events", f.deploymentEvents),
    ("releases_events", f.releasesEvents)]

end Flags

/-- The fields of a hook, as a source asks for them. -/
structure Options where
  /-- Where deliveries go. -/
  url : String
  /-- The secret that deliveries carry in `X-Gitlab-Token`; empty if there is none. -/
  token : String
  sslVerify : Bool
  events : Flags
  deriving DecidableEq, Repr

namespace Options

/-- The fields of a hook with the categories of the given names. -/
def ofSettings (url token : String) (sslVerify : Bool) (names : List String) : Options :=
  ⟨url, token, sslVerify, .ofSettings names⟩

/-- The flags of a hook under their names. -/
def flags (o : Options) : List (String × Bool) := o.events.fields

/-- A flag in a record on one line. -/
def flagText (b : Bool) : String := if b then "true" else "false"

/-- The fields on one line; the secret is not shown. -/
def describe (o : Options) : String :=
  Text.record "HookOptions" [("url", Text.quote o.url), ("token", "\"***\""),
    ("enable_ssl_verification", flagText o.sslVerify),
    ("events", Text.record "EventFlags" (o.flags.map fun f => (f.1, flagText f.2)))]

/-- The fields under the names by which GitLab reads them, those of the flags beside `url`, `token`
and `enable_ssl_verification`. -/
def pairs (o : Options) : List (String × Json) :=
  [("url", .string o.url),
    ("token", .string o.token),
    ("enable_ssl_verification", .bool o.sslVerify),
    ("push_events", .bool o.events.pushEvents),
    ("tag_push_events", .bool o.events.tagPushEvents),
    ("issues_events", .bool o.events.issuesEvents),
    ("confidential_issues_events", .bool o.events.confidentialIssuesEvents),
    ("note_events", .bool o.events.noteEvents),
    ("confidential_note_events", .bool o.events.confidentialNoteEvents),
    ("merge_requests_events", .bool o.events.mergeRequestsEvents),
    ("job_events", .bool o.events.jobEvents),
    ("pipeline_events", .bool o.events.pipelineEvents),
    ("wiki_page_events", .bool o.events.wikiPageEvents),
    ("deployment_events", .bool o.events.deploymentEvents),
    ("releases_events", .bool o.events.releasesEvents)]

/-- The body of a request that writes the fields. -/
def toJson (o : Options) : Json := Json.ofFields o.pairs

end Options

/-- A hook as GitLab reports it. -/
structure Reported where
  id : Int
  url : String
  deriving DecidableEq, Repr

/-- Why a hook could not be read or written. -/
inductive Error where
  /-- There is no hook of this number. -/
  | notFound (id : Int)
  /-- Access was denied, with a `401` or a `403`. -/
  | denied (status : Nat) (message : String)
  /-- GitLab refused the request. -/
  | refused (status : Nat) (message : String)
  /-- GitLab could not be asked. -/
  | transport (cause : Http.Failure)
  /-- The address of GitLab cannot carry a path. -/
  | invalidUrl (text : String)
  deriving DecidableEq, Repr

namespace Error

/-- The wording of an error. -/
def message : Error → String
  | notFound id => s!"hook {id} not found"
  | denied status message => s!"access denied by GitLab ({status}): {message}"
  | refused status message => s!"GitLab API returned {status}: {message}"
  | transport cause => s!"request to GitLab failed: {cause.message}"
  | invalidUrl text => s!"invalid GitLab URL: {text}"

/-- Whether there is no such hook. -/
def isNotFound : Error → Bool
  | notFound _ => true
  | _ => false

/-- Whether access was denied. -/
def isDenied : Error → Bool
  | denied .. => true
  | _ => false

/-- How an error is counted, in the label `outcome` of `Counter.hookOperation`. -/
def outcome : Error → String
  | notFound _ => "not_found"
  | denied .. => "unauthorized"
  | _ => "error"

end Error

/-- The hooks of one project or group: the operations that GitLab offers on them. -/
structure Client (W : Type) where
  get : (id : Int) → Act W (Except Error Reported)
  create : Options → Act W (Except Error Reported)
  edit : (id : Int) → Options → Act W (Except Error Reported)
  delete : (id : Int) → Act W (Except Error Unit)

/-- What hands out clients for a scope and an access token. -/
structure Provider (W : Type) where
  client : Scope → (accessToken : String) → Act W (Except Error (Client W))

end HookRelay.Hook

import HookRelay.Source.Scope
import HookRelay.Text.Quoted

/-!
# Valid sources

The rules that the `spec` of a source must satisfy, applied both where sources are admitted to the
cluster (`Admission.review`) and at the beginning of each pass over them (`Pass.check`). The first
rule that is broken is reported.

## Main definitions

* `Source.Invalidity` : the rule that is broken
* `Source.checkScope`, `Source.checkSecret`, `Source.checkSink` : the rules on one field or two
* `Source.Spec.validate` : applies the rules in order
-/

namespace HookRelay.Source

/-- The rule that a source breaks. -/
inductive Invalidity where
  | scope (fault : ScopeFault)
  | noEventTypes
  /-- A reference to a secret, `accessToken` or `secretToken`, lacks its name or its key. -/
  | incompleteSecret (field : String)
  | missingSink
  | invalidSinkUri (uri : String)
  deriving DecidableEq, Repr

/-- The wording of a broken rule. -/
def Invalidity.message : Invalidity → String
  | .scope .missing => "one of projectUrl or groupUrl must be set"
  | .scope .conflicting => "projectUrl and groupUrl are mutually exclusive"
  | .scope (.invalid url why) => s!"invalid GitLab URL {Text.quote url}: {why.message}"
  | .noEventTypes => "eventTypes must contain at least one event category"
  | .incompleteSecret field => s!"{field}.secretKeyRef must set both name and key"
  | .missingSink => "sink must set ref or uri"
  | .invalidSinkUri uri => s!"invalid sink uri {Text.quote uri}"

/-- Exactly one of the addresses of a project and of a group must be set, to more than blanks, and
it must name an instance and a path on it. -/
def checkScope (projectUrl groupUrl : Option String) : Except Invalidity Unit :=
  let project := (projectUrl.map Text.trim).filter fun url => !url.isEmpty
  let group := (groupUrl.map Text.trim).filter fun url => !url.isEmpty
  match project, group with
  | some url, none | none, some url =>
    match Scope.splitUrl url with
    | .ok _ => .ok ()
    | .error why => .error (.scope (.invalid url why))
  | some _, some _ => .error (.scope .conflicting)
  | none, none => .error (.scope .missing)

/-- A reference to a secret, a `secretKeyRef`, needs a name and a key that are not blank. -/
def checkSecret (field : String) (s : SecretKey) : Except Invalidity Unit :=
  if Text.isAllBlank s.name || Text.isAllBlank s.key then .error (.incompleteSecret field)
  else .ok ()

/-- A destination needs a `ref` or a `uri`; a `uri` without a `ref` must be complete. -/
def checkSink (d : Destination) : Except Invalidity Unit :=
  match d.reference, d.uri with
  | some _, _ => .ok ()
  | none, none => .error .missingSink
  | none, some uri =>
    match Url.parse uri with
    | .ok _ => .ok ()
    | .error _ => .error (.invalidSinkUri uri)

/-- Applies the rules in order, up to the first one that is broken. -/
def Spec.validate (s : Spec) : Except Invalidity Unit := do
  checkScope s.projectUrl s.groupUrl
  if s.eventTypes.all Text.isAllBlank then .error .noEventTypes
  checkSecret "accessToken" s.accessToken
  match s.secretToken with
  | some secret => checkSecret "secretToken" secret
  | none => .ok ()
  checkSink s.sink

end HookRelay.Source

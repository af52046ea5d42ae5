import HookRelay.Source.Format
import HookRelay.World.Act

/-!
# Notices

What the controller tells the people who look after a source, in an `Event` of the cluster: that
something was made, or that something needs their help. Nothing depends on whether a notice arrives.

## Main definitions

* `Notice` : what is told, and about which object
* `Publisher` : what passes notices on
* `Source.notice` : a notice about a source
-/

namespace HookRelay

/-- The object that a notice is about: the `regarding` of an `Event`. -/
structure Notice.Subject where
  apiVersion : Option String
  fieldPath : Option String
  kind : Option String
  name : Option String
  namespace_ : Option String
  resourceVersion : Option String
  uid : Option String
  deriving DecidableEq, Repr

/-- How urgent a notice is: `Normal` or `Warning`. -/
inductive Notice.Level where
  | normal
  | warning
  deriving DecidableEq, Repr

/-- What is told. -/
structure Notice where
  level : Notice.Level
  /-- What happened, as a word. -/
  reason : String
  /-- What the controller was doing, as a word. -/
  action : String
  /-- What happened, as a sentence. -/
  note : Option String
  subject : Notice.Subject
  deriving DecidableEq, Repr

namespace Notice

/-- The written form of a level. -/
def Level.text : Level → String
  | normal => "Normal"
  | warning => "Warning"

namespace Subject

/-- Reads an object that a notice is about. -/
def record : Json.Record Subject where
  what := "ObjectReference"
  blank := ⟨none, none, none, none, none, none, none⟩
  lenient := true
  fields := [
    .may "apiVersion" (.optional .text) (fun v s => { s with apiVersion := v }),
    .may "fieldPath" (.optional .text) (fun v s => { s with fieldPath := v }),
    .may "kind" (.optional .text) (fun v s => { s with kind := v }),
    .may "name" (.optional .text) (fun v s => { s with name := v }),
    .may "namespace" (.optional .text) (fun v s => { s with namespace_ := v }),
    .may "resourceVersion" (.optional .text) (fun v s => { s with resourceVersion := v }),
    .may "uid" (.optional .text) (fun v s => { s with uid := v })]

/-- The written form of an object that a notice is about. -/
def toJson (s : Subject) : Json :=
  .object (presentField "apiVersion" .string s.apiVersion
    ++ presentField "fieldPath" .string s.fieldPath
    ++ presentField "kind" .string s.kind
    ++ presentField "name" .string s.name
    ++ presentField "namespace" .string s.namespace_
    ++ presentField "resourceVersion" .string s.resourceVersion
    ++ presentField "uid" .string s.uid)

/-- A source as the subject of a notice. -/
def ofSource (s : Source) : Subject where
  apiVersion := some Source.apiVersion
  fieldPath := none
  kind := some Source.kind
  name := s.metadata.name
  namespace_ := s.metadata.namespace_
  resourceVersion := none
  uid := s.metadata.uid

end Subject

/-- What passes notices on. -/
structure Publisher (W : Type) where
  publish : Notice → Act W Unit

end Notice

/-- What the controller does with a source, the `action` of its notices: it keeps it going, or takes
it down. -/
def Source.action (s : Source) : String := if s.metadata.deleting then "Finalize" else "Reconcile"

/-- A notice about a source. -/
def Source.notice (s : Source) (level : Notice.Level) (reason note : String) : Notice :=
  ⟨level, reason, s.action, some note, .ofSource s⟩

end HookRelay

import HookRelay.Json.Decode
import HookRelay.Time.Reading

/-!
# Metadata of cluster objects

Every object of the cluster carries its name, its place and its life-cycle data in one record, its
`metadata`. Nothing in it has to be there; `null` counts as absent, and a field that stands twice is
taken from its last place. Fields that nothing here depends on are checked for their form only.

## Main definitions

* `Owner` : a reference to the object that owns this one
* `Metadata` : what is read of an object's metadata
* `Metadata.displayName` : the name, or else what the name will begin with
-/

namespace HookRelay.Cluster

open Json (Decoder Record)

/-- A reference to an owner of an object, one of its `ownerReferences`. -/
structure Owner where
  uid : String
  /-- Whether the owner is the one that manages the object. -/
  controller : Option Bool
  deriving DecidableEq, Repr, Inhabited

/-- What is read of an object's `metadata`. -/
structure Metadata where
  name : Option String
  /-- What the name begins with if the cluster is to choose it. -/
  generateName : Option String
  namespace_ : Option String
  uid : Option String
  /-- Counts the changes of the specification. -/
  generation : Option Int
  /-- Whether the deletion of the object was asked for: it has a `deletionTimestamp`. -/
  deleting : Bool
  finalizers : Option (List String)
  owners : Option (List Owner)
  resourceVersion : Option String
  deriving DecidableEq, Repr, Inhabited

/-- Metadata in which everything is absent. -/
def Metadata.blank : Metadata := ⟨none, none, none, none, none, false, none, none, none⟩

/-- An instant, of which only the form matters. -/
def instant : Decoder Time.Instant
  | .string s =>
    match Time.Instant.read s with
    | .ok t => .ok t
    | .error e => .error (.other e.message)
  | d => Decoder.refuse "an RFC 3339 formatted date and time string" d

/-- A field whose form is checked and whose value is not kept. -/
def checked {σ α : Type} (name : String) (read : Decoder α) : Json.Field σ :=
  .may name (Decoder.optional read) (fun _ s => s)

/-- Reads a reference to an owner. -/
def Owner.record : Record Owner where
  what := "OwnerReference"
  blank := ⟨"", none⟩
  lenient := true
  fields := [
    checked "apiVersion" .text,
    checked "blockOwnerDeletion" .flag,
    .may "controller" (.optional .flag) (fun v o => { o with controller := v }),
    checked "kind" .text,
    checked "name" .text,
    .may "uid" (.optional .text) (fun v o => { o with uid := v.getD "" })]

/-- The form of an entry of `managedFields`, which says who manages which fields. -/
def managedFields : Record Unit where
  what := "ManagedFieldsEntry"
  blank := ()
  lenient := true
  fields := [
    checked "apiVersion" .text,
    checked "fieldsType" .text,
    checked "fieldsV1" .any,
    checked "manager" .text,
    checked "operation" .text,
    checked "subresource" .text,
    checked "time" instant]

/-- Reads metadata. -/
def Metadata.record : Record Metadata where
  what := "ObjectMeta"
  blank := .blank
  lenient := true
  fields := [
    checked "annotations" (.map .text),
    checked "creationTimestamp" instant,
    checked "deletionGracePeriodSeconds" .int64,
    .may "deletionTimestamp" (.optional instant) (fun v m => { m with deleting := v.isSome }),
    .may "finalizers" (.optional (.list .text)) (fun v m => { m with finalizers := v }),
    .may "generateName" (.optional .text) (fun v m => { m with generateName := v }),
    .may "generation" (.optional .int64) (fun v m => { m with generation := v }),
    checked "labels" (.map .text),
    checked "managedFields" (.list managedFields.decode),
    .may "name" (.optional .text) (fun v m => { m with name := v }),
    .may "namespace" (.optional .text) (fun v m => { m with namespace_ := v }),
    .may "ownerReferences" (.optional (.list Owner.record.decode))
      (fun v m => { m with owners := v }),
    .may "resourceVersion" (.optional .text) (fun v m => { m with resourceVersion := v }),
    checked "selfLink" .text,
    .may "uid" (.optional .text) (fun v m => { m with uid := v })]

/-- The `name` of an object, or else its `generateName`, or else nothing. -/
def Metadata.displayName (m : Metadata) : String := (m.name <|> m.generateName).getD ""

/-- The namespace of an object; empty if it has none. -/
def Metadata.namespaceOrEmpty (m : Metadata) : String := m.namespace_.getD ""

/-- The identifiers of the owners that manage an object: those whose reference has `controller`
set. -/
def Metadata.controllers (m : Metadata) : List String :=
  ((m.owners.getD []).filter (fun o => o.controller = some true)).map Owner.uid

end HookRelay.Cluster

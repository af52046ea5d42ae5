import HookRelay.Cluster.Metadata
import HookRelay.Cluster.Request

/-!
# Kinds of objects and where they are kept

A kind of object has a group, a version and a plural, which make up the path below which its objects
are kept. The plural of a kind that is known by its name only, as that of an `ObjectRef` is, is
formed by the rules of English that a list of kinds needs.

## Main definitions

* `Resource` : a kind of objects
* `Resource.path` : where the objects of a namespace are kept
* `pluralOf` : the plural of a word
* `Object` : an object of any kind
* `Api.list` : the objects that carry a label
-/

namespace HookRelay.Cluster

open Json (Decoder Record)

/-- A kind of objects. -/
structure Resource where
  group : String
  version : String
  kind : String
  plural : String
  deriving DecidableEq, Repr

/-- The group and the version as one text, the `apiVersion` of an object. -/
def Resource.apiVersion (r : Resource) : String :=
  if r.group.isEmpty then r.version else r.group ++ "/" ++ r.version

/-- The path below which the objects of a namespace are kept. -/
def Resource.path (r : Resource) (namespace_ : String) : String :=
  (if r.group.isEmpty then "/api/" ++ r.version else "/apis/" ++ r.group ++ "/" ++ r.version)
    ++ "/namespaces/" ++ namespace_ ++ "/" ++ r.plural

/-- Whether a word ends in a hiss. -/
def endsInHiss (word : String) : Bool := ["s", "x", "z", "ch", "sh"].any fun e => word.endsWith e

/-- The character before the last one, in a word of ASCII characters. It is looked for at the
place that the number of bytes gives, so that a longer character pushes it out of sight. -/
def beforeLast? (word : String) : Option Char :=
  if 2 ≤ word.utf8ByteSize then word.toList[word.utf8ByteSize - 2]? else none

/-- Whether the last character of a word follows a consonant. -/
def followsConsonant (word : String) : Bool :=
  match beforeLast? word with
  | some c => !"aeiou".toList.contains c
  | none => false

/-- The plural of a word. -/
def pluralOf (word : String) : String :=
  if word = "endpoints" then word
  else if endsInHiss word then word ++ "es"
  else if word.endsWith "y" && followsConsonant word then
    String.ofList (word.toList.dropLast) ++ "ies"
  else word ++ "s"

/-- The kind of objects of a name. -/
def Resource.named (group version kind : String) : Resource :=
  ⟨group, version, kind, pluralOf (Text.asciiLower kind)⟩

/-! ## Objects of any kind -/

/-- An object of any kind: its metadata, and all that it holds. -/
structure Object where
  metadata : Metadata
  data : Json
  deriving Inhabited

/-- The form of an object's metadata. -/
def Object.form : Record Metadata where
  what := "struct DynamicObject"
  blank := .blank
  fields := [.may "metadata" Metadata.record.decode (fun v _ => v)]

/-- Reads an object. -/
def Object.read : Decoder Object
  | .object fs stop => do
    let metadata ← Object.form.decode (.object fs stop)
    let data ← Decoder.value (.object fs stop)
    return ⟨metadata, data⟩
  | d => Decoder.refuse "struct DynamicObject" d

/-- The form of the metadata of a list. -/
def listMetadata : Record Unit where
  what := "ListMeta"
  blank := ()
  lenient := true
  fields := [checked "continue" .text, checked "remainingItemCount" .int64,
    checked "resourceVersion" .text, checked "selfLink" .text]

/-- The form of a list of objects. -/
def listForm : Record (List Object) where
  what := "struct ObjectList"
  blank := []
  fields := [
    .may "metadata" listMetadata.decode (fun _ s => s),
    .must "items" (.optional (.list Object.read)) (fun v _ => v.getD [])]

/-- Reads a list of objects. -/
def readList : Decoder (List Object)
  | .object fs stop => listForm.decode (.object fs stop)
  | d => Decoder.refuse "struct ObjectList" d

/-- A label and its value, by which a `labelSelector` picks objects. -/
structure Label where
  key : String
  value : String
  deriving DecidableEq, Repr

/-- The `labelSelector` of a label, as it is written in the query of a list. -/
def Label.query (l : Label) : String := "labelSelector=" ++ l.key ++ "%3D" ++ l.value

/-- The objects below a path that carry a label. -/
def Api.list {W : Type} (api : Api W) (path : String) (label : Label) :
    Act W (Except Error (List Object)) :=
  api.call (path ++ "?" ++ label.query) .read readList

end HookRelay.Cluster

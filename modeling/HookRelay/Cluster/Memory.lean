import HookRelay.Cluster.Resource
import HookRelay.Json.Merge

/-!
# A cluster in memory

A cluster that keeps its objects in memory and answers requests as the real one does: objects
are read, listed by their label, created under names it chooses, and changed by patches. Any
request can be made to fail. It records what it was asked.

## Main definitions

* `Memory` : objects, failures, and the record of requests
* `Memory.answer` : the answer to a request
* `Memory.api` : the cluster, inside a larger world
-/

namespace HookRelay.Cluster

/-- A cluster in memory. -/
structure Memory where
  /-- The objects under their paths, in the order of the paths. -/
  objects : List (String × Json)
  /-- What is answered in place of an answer, under the method and path of the request. -/
  faults : List (String × Response)
  /-- What the cluster adds to an object when it is created. -/
  onCreate : Json
  /-- How many objects were created. -/
  created : Nat
  /-- The requests, the latest first. -/
  log : List Request

namespace Memory

/-- The last segment of a path. -/
def lastSegment (path : String) : String :=
  String.ofList ((path.toList.reverse.takeWhile (· != '/')).reverse)

/-- The answer that there is nothing under a path. -/
def notFound (path : String) : Response :=
  ⟨404, .json (Json.ofFields [("status", .string "Failure"),
    ("message", .string ("\"" ++ lastSegment path ++ "\" not found")),
    ("reason", .string "NotFound"), ("code", .ofNat 404)])⟩

/-- The answer to a patch that cannot be applied. -/
def rejected : Response :=
  ⟨422, .json (Json.ofFields [("status", .string "Failure"),
    ("message", .string "the server rejected our request"), ("reason", .string "Invalid"),
    ("code", .ofNat 422)])⟩

/-- The label of receive adapters, `receive-adapter=gitlab`. -/
def adapterLabel : Label := ⟨"receive-adapter", "gitlab"⟩

/-- Whether an object carries a label. -/
def carries (l : Label) (object : Json) : Bool :=
  object.getPath? ["metadata", "labels", l.key] == some (.string l.value)

/-- Whether a path leads directly below another one. -/
def isBelow (path other : String) : Bool :=
  match (path ++ "/").toList, other.toList with
  | start, cs => start.isPrefixOf cs && !(cs.drop start.length).contains '/'

/-- The objects directly below a path that carry a label. -/
def below (l : Label) (path : String) (m : Memory) : List Json :=
  (m.objects.filter fun o => isBelow path o.1 && carries l o.2).map Prod.snd

/-- The answer to a reading request. -/
def read (r : Request) (m : Memory) : Response :=
  match Json.lookup r.path m.objects, r.query with
  | some object, _ => ⟨200, .json object⟩
  | none, some query =>
    if Text.contains query "labelSelector" then
      ⟨200, .json (Json.ofFields [("apiVersion", .string "v1"), ("kind", .string "List"),
        ("metadata", .object []), ("items", .array (m.below adapterLabel r.path))])⟩
    else notFound r.path
  | none, none => notFound r.path

/-- A number in five digits. -/
def fiveDigits (n : Nat) : String :=
  let s := toString n
  String.ofList (List.replicate (5 - s.length) '0') ++ s

/-- The name of a new object: its own, or one that begins with its `generateName`. -/
def nameFor (n : Nat) (object : Json) : String :=
  match object.getPath? ["metadata", "name"] with
  | some (.string s) => s
  | _ =>
    (((object.getPath? ["metadata", "generateName"]).bind Json.asText?).getD "") ++ fiveDigits n

/-- An object under its name. -/
def withName (name : String) (object : Json) : Json :=
  match object.get? "metadata" with
  | some m => object.set "metadata" (m.set "name" (.string name))
  | none => object

/-- Adds an object. -/
def create (path : String) (object : Json) (m : Memory) : Response × Memory :=
  let n := m.created + 1
  let name := nameFor n object
  let object := Json.merge (withName name object) m.onCreate
  (⟨201, .json object⟩,
    { m with created := n, objects := Json.insert (path ++ "/" ++ name) object m.objects })

/-- The path of an object, also where a request is about its `/status`. -/
def ownPath (path : String) : String :=
  if lastSegment path = "status" then
    String.ofList (path.toList.take (path.length - "/status".length))
  else path

/-- Changes an object. -/
def update (path : String) (change : Json → Option Json) (m : Memory) : Response × Memory :=
  match Json.lookup (ownPath path) m.objects with
  | none => (notFound path, m)
  | some object =>
    match change object with
    | none => (rejected, m)
    | some object =>
      (⟨200, .json object⟩, { m with objects := Json.insert (ownPath path) object m.objects })

/-- The failure that is asked for a request. -/
def fault? (r : Request) (m : Memory) : Option Response :=
  (m.faults.find? fun f => f.1 = r.content.method ++ " " ++ r.path).map Prod.snd

/-- The answer to a request. -/
def answer (r : Request) (m : Memory) : Response × Memory :=
  match m.fault? r with
  | some response => (response, m)
  | none =>
    match r.content with
    | .read => (m.read r, m)
    | .create object => m.create r.path object
    | .merge patch => m.update r.path fun object => some (Json.merge object patch)
    | .operations patch => m.update r.path patch.apply

/-- The cluster as a part of a world. -/
def api {W : Type} (part : Part W Memory) : Api W where
  send := fun r => part.act fun m =>
    let (response, m) := m.answer r
    (response, { m with log := r :: m.log })

end Memory

end HookRelay.Cluster

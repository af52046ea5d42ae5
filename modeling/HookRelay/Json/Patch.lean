import HookRelay.Json.Basic

/-!
# Patches by operations

A patch by operations is a list of steps, each of which looks at one place of a value: a test
that the place holds a given value, an addition, or a removal. Places are given by the keys and
positions that lead there. All steps succeed or nothing is changed.

## Main definitions

* `Patch.Step` : one operation
* `Patch.apply` : the changed value, `none` if a step cannot be taken
* `Patch.toJson` : the written form of a patch
-/

namespace HookRelay.Json

/-- One operation of a patch; a place is the list of keys that lead there. -/
inductive Patch.Step where
  | test (place : List String) (value : Json)
  | add (place : List String) (value : Json)
  | remove (place : List String)
  deriving Repr

/-- A patch by operations. -/
abbrev Patch := List Patch.Step

namespace Patch

/-- The position that a key of an array means; no sign and no needless zero. -/
def position? (key : String) : Option Nat :=
  let cs := key.toList
  if cs.isEmpty || !cs.all Char.isDigit || (cs.length > 1 && cs.head? == some '0') then none
  else some (cs.foldl (fun n c => n * 10 + (c.toNat - 48)) 0)

/-- The value at a place. -/
def at? : List String → Json → Option Json
  | [], j => some j
  | k :: ks, .object fs => (lookup k fs).bind (at? ks)
  | k :: ks, .array xs => ((position? k).bind (xs[·]?)).bind (at? ks)
  | _ :: _, _ => none

/-- Changes the value at a place. -/
def modify (change : Json → Option Json) : List String → Json → Option Json
  | [], j => change j
  | k :: ks, .object fs =>
    ((lookup k fs).bind (modify change ks)).map fun v => .object (insert k v fs)
  | k :: ks, .array xs => do
    let i ← position? k
    let x ← xs[i]?
    let y ← modify change ks x
    return .array (xs.set i y)
  | _ :: _, _ => none

/-- Puts a value under a key of an object, or before a position of an array; `-` stands for the
position behind the last item. -/
def addEntry (key : String) (value : Json) : Json → Option Json
  | .object fs => some (.object (insert key value fs))
  | .array xs =>
    if key = "-" then some (.array (xs ++ [value]))
    else (position? key).bind fun i =>
      if i ≤ xs.length then some (.array (xs.take i ++ value :: xs.drop i)) else none
  | _ => none

/-- Takes an entry out of an object or an array. -/
def removeEntry (key : String) : Json → Option Json
  | .object fs => if (lookup key fs).isSome then some (.object (erase key fs)) else none
  | .array xs => (position? key).bind fun i =>
      if i < xs.length then some (.array (xs.eraseIdx i)) else none
  | _ => none

/-- Takes one step. A place that does not exist tests equal to `null`. -/
def Step.apply (j : Json) : Step → Option Json
  | .test place value => if (at? place j).getD .null = value then some j else none
  | .add place value =>
    match place.getLast? with
    | none => some value
    | some key => modify (addEntry key value) place.dropLast j
  | .remove place =>
    match place.getLast? with
    | none => none
    | some key => modify (removeEntry key) place.dropLast j

/-- Takes all steps, or none. -/
def apply (p : Patch) (j : Json) : Option Json := p.foldlM Step.apply j

/-- One key of a place as it is written in a pointer. -/
def escapeKey (key : String) : String :=
  String.ofList (key.toList.flatMap fun c =>
    if c = '~' then ['~', '0'] else if c = '/' then ['~', '1'] else [c])

/-- A place as a pointer. -/
def pointer (place : List String) : String :=
  place.foldl (fun acc key => acc ++ "/" ++ escapeKey key) ""

/-- The written form of a step. -/
def Step.toJson : Step → Json
  | .test place value =>
    .object [("op", .string "test"), ("path", .string (pointer place)), ("value", value)]
  | .add place value =>
    .object [("op", .string "add"), ("path", .string (pointer place)), ("value", value)]
  | .remove place => .object [("op", .string "remove"), ("path", .string (pointer place))]

/-- The written form of a patch. -/
def toJson (p : Patch) : Json := .array (p.map Step.toJson)

end Patch

end HookRelay.Json

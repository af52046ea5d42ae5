import HookRelay.Hook.Basic

/-!
# Keeping a hook as it should be

A source owns at most one hook, whose number is recorded as its `webhookId`. A recorded hook is read
first: if it is still there its fields are written again, and only if GitLab says that it is gone
(`Error.isNotFound`) a new one is created. Any other failure leaves it alone, for otherwise a hook
that could not be read would get a twin.

## Main definitions

* `Outcome` : what was done
* `sync` : makes the hook as it should be
* `remove` : deletes a hook
-/

namespace HookRelay.Hook

/-- What was done to make a hook as it should be. -/
inductive Outcome where
  /-- There was none, and one was created. -/
  | created (id : Int)
  /-- The recorded one was gone, and another was created. -/
  | recreated (previous id : Int)
  /-- The recorded one was written again. -/
  | updated (id : Int)
  deriving DecidableEq, Repr

namespace Outcome

/-- The number of the hook. -/
def id : Outcome → Int
  | created id | recreated _ id | updated id => id

/-- Whether a hook was created. -/
def isNew : Outcome → Bool
  | created _ | recreated .. => true
  | updated _ => false

/-- An outcome on one line. -/
def describe : Outcome → String
  | created id => s!"Created({id})"
  | recreated previous id =>
    Text.record "Recreated" [("previous", toString previous), ("id", toString id)]
  | updated id => s!"Updated({id})"

end Outcome

variable {W : Type}

/-- How the result of an operation is counted. -/
def outcomeOf {α : Type} : Except Error α → String
  | .ok _ => "success"
  | .error e => e.outcome

/-- Performs an operation and counts how it ended, with `Counter.hookOperation`. -/
def counted {α : Type} (count : Counter → Act W Unit) (operation : String)
    (a : Act W (Except Error α)) : Act W (Except Error α) := do
  let r ← a
  count (.hookOperation operation (outcomeOf r))
  return r

/-- Creates a hook. -/
def createNew (count : Counter → Act W Unit) (client : Client W) (options : Options)
    (outcome : Int → Outcome) : Act W (Except Error Outcome) := do
  match ← counted count "create" (client.create options) with
  | .ok hook => return .ok (outcome hook.id)
  | .error e => return .error e

/-- Writes the fields of a hook again. -/
def overwrite (count : Counter → Act W Unit) (client : Client W) (options : Options)
    (id : Int) : Act W (Except Error Outcome) := do
  match ← counted count "edit" (client.edit id options) with
  | .ok _ => return .ok (.updated id)
  | .error e => return .error e

/-- Makes the hook as it should be, given the recorded `webhookId`: it is created, created anew or
written again. -/
def sync (count : Counter → Act W Unit) (client : Client W) (options : Options) :
    (recorded : Option Int) → Act W (Except Error Outcome)
  | none => createNew count client options .created
  | some id => do
    match ← counted count "get" (client.get id) with
    | .ok _ => overwrite count client options id
    | .error e =>
      if e.isNotFound then createNew count client options (.recreated id) else return .error e

/-- Deletes a hook; the answer is whether it was still there, and a hook that is gone already is no
failure. -/
def remove (count : Counter → Act W Unit) (client : Client W) (id : Int) :
    Act W (Except Error Bool) := do
  match ← counted count "delete" (client.delete id) with
  | .ok () => return .ok true
  | .error e => if e.isNotFound then return .ok false else return .error e

end HookRelay.Hook

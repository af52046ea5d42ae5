import HookRelay.Hook.Basic

/-!
# Hooks in memory

A store of hooks that behaves as GitLab does: numbers are given out in ascending order, and
reading, changing or deleting a hook that does not exist says so. Operations can be made to fail,
and then change nothing.

## Main definitions

* `Store` : hooks, failures, and the record of operations
* `Store.client`, `Store.provider` : the store as the hooks of every project and group
-/

namespace HookRelay.Hook

/-- The operations on hooks. -/
inductive Operation where
  | get
  | create
  | edit
  | delete
  deriving DecidableEq, Repr

/-- How operations are answered. -/
inductive Mode where
  | healthy
  | unauthorized
  | forbidden
  | failing
  | notFound
  | invalidUrl
  deriving DecidableEq, Repr

/-- The error with which an operation on a hook is answered, if it is. -/
def Mode.error? (id : Option Int) : Mode → Option Error
  | .healthy => none
  | .unauthorized => some (.denied 401 "401 Unauthorized")
  | .forbidden => some (.denied 403 "insufficient_scope")
  | .failing => some (.refused 500 "Internal Server Error")
  | .notFound =>
    match id with
    | some id => some (.notFound id)
    | none => some (.refused 404 "404 Project Not Found")
  | .invalidUrl => some (.invalidUrl "mailto:x")

/-- What was asked of a store. -/
inductive Call where
  | client (scope : Scope) (token : String)
  | get (id : Int)
  | create (options : Options)
  | edit (id : Int) (options : Options)
  | delete (id : Int)
  deriving DecidableEq, Repr

/-- A store of hooks. -/
structure Store where
  /-- The hooks under their numbers. -/
  hooks : List (Int × Options)
  /-- The number that was given out last; a hook that is created gets the next one. -/
  lastId : Int
  mode : Mode
  /-- The only operation that the mode concerns, if there is one. -/
  only : Option Operation
  /-- Why no client is handed out, if none is. -/
  clientError : Option Error
  /-- What was asked, the latest first. -/
  calls : List Call

namespace Store

/-- A healthy store without hooks. -/
def empty : Store := ⟨[], 0, .healthy, none, none, []⟩

/-- The fields of a hook. -/
def find? (id : Int) : List (Int × Options) → Option Options
  | [] => none
  | (i, o) :: rest => if i = id then some o else find? id rest

/-- Puts the fields of a hook in place of those it has, or adds it. -/
def put (id : Int) (o : Options) : List (Int × Options) → List (Int × Options)
  | [] => [(id, o)]
  | (i, p) :: rest => if i = id then (id, o) :: rest else (i, p) :: put id o rest

/-- Takes a hook out. -/
def drop (id : Int) (hooks : List (Int × Options)) : List (Int × Options) :=
  hooks.filter fun h => h.1 != id

/-- The error with which an operation is answered, if it is. -/
def error? (s : Store) (op : Operation) (id : Option Int) : Option Error :=
  if (s.only.getD op) = op then s.mode.error? id else none

/-- Records what was asked. -/
def record (c : Call) (s : Store) : Store := { s with calls := c :: s.calls }

/-- Reads a hook. -/
def get (id : Int) : Act Store (Except Error Reported) := fun s =>
  let s := s.record (.get id)
  match s.error? .get (some id), find? id s.hooks with
  | some e, _ => (.error e, s)
  | none, some o => (.ok ⟨id, o.url⟩, s)
  | none, none => (.error (.notFound id), s)

/-- Creates a hook. -/
def create (o : Options) : Act Store (Except Error Reported) := fun s =>
  let s := s.record (.create o)
  match s.error? .create none with
  | some e => (.error e, s)
  | none =>
    let id := s.lastId + 1
    (.ok ⟨id, o.url⟩, { s with lastId := id, hooks := put id o s.hooks })

/-- Changes a hook. -/
def edit (id : Int) (o : Options) : Act Store (Except Error Reported) := fun s =>
  let s := s.record (.edit id o)
  match s.error? .edit (some id), find? id s.hooks with
  | some e, _ => (.error e, s)
  | none, some _ => (.ok ⟨id, o.url⟩, { s with hooks := put id o s.hooks })
  | none, none => (.error (.notFound id), s)

/-- Deletes a hook. -/
def delete (id : Int) : Act Store (Except Error Unit) := fun s =>
  let s := s.record (.delete id)
  match s.error? .delete (some id), find? id s.hooks with
  | some e, _ => (.error e, s)
  | none, some _ => (.ok (), { s with hooks := drop id s.hooks })
  | none, none => (.error (.notFound id), s)

variable {W : Type}

/-- The store as the hooks of any project or group. -/
def client (part : Part W Store) : Client W where
  get := fun id => part.act (get id)
  create := fun o => part.act (create o)
  edit := fun id o => part.act (edit id o)
  delete := fun id => part.act (delete id)

/-- The store as a provider. -/
def provider (part : Part W Store) : Provider W where
  client := fun scope token => part.act fun s =>
    let s := s.record (.client scope token)
    match s.clientError with
    | some e => (.error e, s)
    | none => (.ok (client part), s)

/-! ## One equation per operation on hooks -/

theorem find?_put_self (id : Int) (o : Options) (hooks : List (Int × Options)) :
    find? id (put id o hooks) = some o := by
  induction hooks with
  | nil => simp [put, find?]
  | cons h rest ih =>
    obtain ⟨i, p⟩ := h
    by_cases e : i = id
    · simp [put, e, find?]
    · simp [put, e, find?, ih]

/-- Other hooks do not see what is put under a number. -/
theorem find?_put_of_ne {id other : Int} (ne : other ≠ id) (o : Options)
    (hooks : List (Int × Options)) : find? other (put id o hooks) = find? other hooks := by
  induction hooks with
  | nil => simp [put, find?, Ne.symm ne]
  | cons h rest ih =>
    obtain ⟨i, p⟩ := h
    by_cases e : i = id
    · subst e; simp [put, find?, Ne.symm ne]
    · simp [put, e, find?, ih]

/-- A hook that was taken out is gone. -/
theorem find?_drop_self (id : Int) (hooks : List (Int × Options)) :
    find? id (drop id hooks) = none := by
  induction hooks with
  | nil => rfl
  | cons h rest ih =>
    obtain ⟨i, p⟩ := h
    by_cases e : i = id
    · simpa [drop, e] using ih
    · have ne : (i != id) = true := by simpa using e
      simpa [drop, List.filter, ne, find?, e] using ih

/-- Other hooks do not see that one is taken out. -/
theorem find?_drop_of_ne {id other : Int} (ne : other ≠ id) (hooks : List (Int × Options)) :
    find? other (drop id hooks) = find? other hooks := by
  induction hooks with
  | nil => rfl
  | cons h rest ih =>
    obtain ⟨i, p⟩ := h
    by_cases e : i = id
    · subst e; simpa [drop, find?, Ne.symm ne] using ih
    · have keep : (i != id) = true := by simpa using e
      by_cases g : i = other
      · subst g; simp [drop, List.filter, keep, find?]
      · simpa [drop, List.filter, keep, find?, g] using ih

end Store

end HookRelay.Hook

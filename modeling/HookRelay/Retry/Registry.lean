import HookRelay.Retry.Fibonacci

/-!
# Failures of each source

Every source has a backoff of its own, a `Fibonacci` sequence of delays, so that one that fails does
not slow down the others. A success starts its sequence over.

## Main definitions

* `Registry` : where the sequences of delays stand
* `Registry.fail` : one more failure, and how long to wait
* `Registry.reset` : forgets the failures of a source
-/

namespace HookRelay.Retry

/-- The failures of one source. -/
structure Record where
  delays : Fibonacci
  /-- How often the source failed since the last success, the error count. -/
  failures : Nat
  deriving DecidableEq, Repr

/-- The failures of all sources, under their keys. -/
abbrev Registry := List (String × Record)

/-- The key of a source, `namespace/name`. -/
def key (namespace_ name : String) : String := namespace_ ++ "/" ++ name

/-- The bounds of the delays, in seconds. -/
structure Bounds where
  least : Nat
  most : Nat
  deriving DecidableEq, Repr

namespace Registry

/-- The record under a key. -/
def find? (k : String) : Registry → Option Record
  | [] => none
  | (l, r) :: rest => if l = k then some r else find? k rest

/-- Puts a record under a key. -/
def put (k : String) (r : Record) : Registry → Registry
  | [] => [(k, r)]
  | (l, s) :: rest => if l = k then (k, r) :: rest else (l, s) :: put k r rest

/-- The record of a source that never failed. -/
def fresh (b : Bounds) : Record := ⟨.between b.least b.most, 0⟩

/-- One more failure: the delay before the source is looked at again, and the number of its
failures. -/
def fail (b : Bounds) (k : String) (g : Registry) : (Nat × Nat) × Registry :=
  let r := (g.find? k).getD (fresh b)
  let (delay, delays) := r.delays.next
  ((delay, r.failures + 1), g.put k ⟨delays, r.failures + 1⟩)

/-- Forgets the failures of a source, and says whether there were any. -/
def reset (k : String) (g : Registry) : Bool × Registry :=
  match g.find? k with
  | some r => (0 < r.failures, g.put k ⟨r.delays.reset, 0⟩)
  | none => (false, g)

/-! ## One equation per operation -/

theorem find?_put_self (k : String) (r : Record) (g : Registry) :
    (g.put k r).find? k = some r := by
  induction g with
  | nil => simp [put, find?]
  | cons e rest ih =>
    obtain ⟨l, s⟩ := e
    by_cases h : l = k
    · simp [put, h, find?]
    · simp [put, h, find?, ih]

/-- Other keys do not see what is put under a key. -/
theorem find?_put_of_ne {k other : String} (ne : other ≠ k) (r : Record) (g : Registry) :
    (g.put k r).find? other = g.find? other := by
  induction g with
  | nil => simp [put, find?, Ne.symm ne]
  | cons e rest ih =>
    obtain ⟨l, s⟩ := e
    by_cases h : l = k
    · subst h; simp [put, find?, Ne.symm ne]
    · simp [put, h, find?, ih]

end Registry

end HookRelay.Retry

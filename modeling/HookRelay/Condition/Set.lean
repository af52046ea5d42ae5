import HookRelay.Condition.Basic
import HookRelay.Time.Instant

/-!
# Sets of conditions

A kind of resource declares the conditions it carries, and which of them contribute to its
being ready. The condition of readiness follows from those: it fails with the first one that
fails, is unknown with the first one that does not hold, and holds otherwise.

A condition's time moves exactly when its status changes, so that judging the same again leaves
a list as it is.

## Main definitions

* `Condition.Set` : the declaration
* `Set.verdict` : what follows for readiness
* `Set.complete` : adds what is missing and brings the list into order
* `Set.mark` : judges one condition
-/

namespace HookRelay.Condition

/-- A condition that a kind of resource declares, by its `type`. -/
structure Member where
  name : String
  /-- Whether the resource is ready only if this condition holds. -/
  contributes : Bool
  deriving DecidableEq, Repr

/-- The conditions a kind of resource declares, in the order in which they are shown behind the
condition of readiness. -/
structure Set where
  /-- The name of the condition of readiness, `Ready`. -/
  ready : String
  members : List Member
  deriving DecidableEq, Repr

/-- What is said about a condition: its status, reason and message. -/
structure Finding where
  status : String
  reason : Option String
  message : Option String
  deriving DecidableEq, Repr

/-- Writes a finding into a condition; its `lastTransitionTime` moves if its status changes. -/
def update (now : Time.Instant) (f : Finding) (c : Condition) : Condition :=
  { c with
    status := f.status
    since := if c.status = f.status then c.since else some now.render
    reason := f.reason
    message := f.message }

/-- A new condition with a finding. -/
def new (now : Time.Instant) (name : String) (f : Finding) : Condition :=
  ⟨name, f.status, some now.render, f.reason, f.message⟩

/-- Writes a finding into the condition of a name that counts, or adds one at the end. -/
def write (now : Time.Instant) (name : String) (f : Finding) : List Condition → List Condition
  | [] => [new now name f]
  | c :: cs => if c.name = name then update now f c :: cs else c :: write now name f cs

namespace Set

/-- What the contributing conditions say about readiness; `pending` is the first of those
already seen that neither holds nor fails. -/
def judge (cs : List Condition) : (pending : Option Finding) → List Member → Finding
  | none, [] => ⟨holds, none, none⟩
  | some f, [] => f
  | pending, m :: ms =>
    if !m.contributes then judge cs pending ms
    else
      match find? m.name cs with
      | some c =>
        if c.status = fails then ⟨fails, c.reason, c.message⟩
        else if c.status = holds then judge cs pending ms
        else judge cs (pending <|> some ⟨unknown, c.reason, c.message⟩) ms
      | none => judge cs (pending <|> some ⟨unknown, none, none⟩) ms

/-- What follows for readiness from the other conditions, the dependents of `Ready`. -/
def verdict (s : Set) (cs : List Condition) : Finding := judge cs none s.members

/-- Brings the condition of readiness in line with the others. -/
def derive (s : Set) (now : Time.Instant) (cs : List Condition) : List Condition :=
  write now s.ready (s.verdict cs) cs

/-- Adds the conditions of the given names that are missing, as `Unknown`. -/
def addMissing (now : Time.Instant) : List String → List Condition → List Condition
  | [], cs => cs
  | n :: ns, cs =>
    addMissing now ns
      (if cs.any (fun c => c.name = n) then cs else cs ++ [new now n ⟨unknown, none, none⟩])

/-- Where conditions of a name stand in the list: readiness first, then the members in order,
then all others. -/
def rank (s : Set) (name : String) : Nat :=
  if name = s.ready then 0
  else (s.members.findIdx (fun m => m.name = name)) + 1

/-- Puts a condition before the first one that does not stand earlier. -/
def insertRanked (s : Set) (c : Condition) : List Condition → List Condition
  | [] => [c]
  | d :: ds => if s.rank c.name ≤ s.rank d.name then c :: d :: ds else d :: insertRanked s c ds

/-- Brings a list into order; conditions of equal rank keep theirs. -/
def arrange (s : Set) (cs : List Condition) : List Condition := cs.foldr s.insertRanked []

/-- The names a resource carries, readiness first. -/
def names (s : Set) : List String := s.ready :: s.members.map Member.name

/-- Adds every missing condition as `Unknown`, brings the list into order and derives readiness:
what a pass does to the stored `conditions` before anything else. -/
def complete (s : Set) (now : Time.Instant) (cs : List Condition) : List Condition :=
  s.derive now (s.arrange (addMissing now s.names cs))

/-- Writes a finding into the condition of a name, and derives readiness (`Set.derive`) unless the
finding is about readiness itself. -/
def mark (s : Set) (now : Time.Instant) (name : String) (f : Finding) (cs : List Condition) :
    List Condition :=
  let cs := write now name f cs
  if name = s.ready then cs else s.derive now cs

/-- Judges that a condition holds: it becomes `True`. -/
def markTrue (s : Set) (now : Time.Instant) (name : String) : List Condition → List Condition :=
  s.mark now name ⟨holds, none, none⟩

/-- Judges that a condition fails: it becomes `False`. -/
def markFalse (s : Set) (now : Time.Instant) (name reason message : String) :
    List Condition → List Condition :=
  s.mark now name ⟨fails, some reason, some message⟩

/-- Judges that a condition cannot be told: it becomes `Unknown`. -/
def markUnknown (s : Set) (now : Time.Instant) (name reason message : String) :
    List Condition → List Condition :=
  s.mark now name ⟨unknown, some reason, some message⟩

end Set

end HookRelay.Condition

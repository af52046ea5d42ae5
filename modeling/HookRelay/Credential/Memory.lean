import HookRelay.Credential.Basic

/-!
# Secrets in memory

Secrets of several namespaces, which can be made unreadable, and the record of which were read.
-/

namespace HookRelay.Credential

/-- Secrets in memory. -/
structure Memory where
  /-- The secrets under their namespaces and names. -/
  secrets : List (String × Data)
  /-- Why secrets cannot be read, if they cannot. -/
  failure : Option String
  /-- The secrets that were read, the latest first. -/
  reads : List String

namespace Memory

/-- No secrets. -/
def empty : Memory := ⟨[], none, []⟩

/-- The place of a secret. -/
def place (namespace_ name : String) : String := namespace_ ++ "/" ++ name

/-- The secret at a place. -/
def find? (place : String) (m : Memory) : Option Data :=
  (m.secrets.find? fun s => s.1 = place).map Prod.snd

/-- Puts a secret at a place, or takes it away. -/
def put (place : String) (data : Option Data) (m : Memory) : Memory :=
  { m with secrets := (data.toList.map fun d => (place, d)) ++ m.secrets.filter (·.1 != place) }

/-- Reads a secret. -/
def get (namespace_ name : String) : Act Memory (Except String (Option Data)) := fun m =>
  let place := place namespace_ name
  (match m.failure with
    | some why => .error why
    | none => .ok (m.find? place),
    { m with reads := place :: m.reads })

/-- Secrets in memory as a part of a world. -/
def secretsOf {W : Type} (part : Part W Memory) : Secrets W where
  get := fun namespace_ name => part.act (get namespace_ name)

end Memory

end HookRelay.Credential

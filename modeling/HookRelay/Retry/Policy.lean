import HookRelay.Metrics
import HookRelay.Retry.Registry
import HookRelay.Source.Basic
import HookRelay.World.Act

/-!
# What is done when looking at a source failed

The error policy of the controller: a `reconcile` call that failed is counted, recorded under the
key of the source, and answered with the delay after which the source is looked at again.
-/

namespace HookRelay.Retry

/-- The key under which the failures of a source are recorded: its namespace and its
`Metadata.displayName`. -/
def sourceKey (s : Source) : String := key s.namespaceOrEmpty s.metadata.displayName

/-- Where failures are recorded and how. -/
structure Policy (W : Type) where
  bounds : Bounds
  registry : Part W Registry
  count : Counter → Act W Unit

namespace Policy

variable {W : Type}

/-- One more failure under a key: the delay and the number of failures. -/
def fail (p : Policy W) (k : String) : Act W (Nat × Nat) := p.registry.act (Registry.fail p.bounds k)

/-- Forgets the failures under a key, and says whether there were any. -/
def reset (p : Policy W) (k : String) : Act W Bool := p.registry.act (Registry.reset k)

/-- Handles the failure of a source: how long to wait, in seconds, by `Registry.fail`. -/
def afterFailure (p : Policy W) (s : Source) : Act W Nat := do
  p.count .reconciliationError
  let (delay, _) ← p.fail (sourceKey s)
  p.count (.requeue "error-backoff")
  return delay

end Policy

end HookRelay.Retry

/-!
# Delays that grow like Fibonacci numbers

Each delay of a backoff is the sum of the two before it, in whole seconds, and none is longer than a
bound. The delays grow more slowly than by doubling. Both bounds are at least one second, and the
upper bound is never below the lower one.

## Main definitions

* `Fibonacci` : where a sequence of delays stands
* `Fibonacci.next` : the next delay
* `Fibonacci.reset` : back to the first delay
-/

namespace HookRelay.Retry

/-- Where a sequence of delays stands. -/
structure Fibonacci where
  /-- The first delay. -/
  least : Nat
  /-- The longest delay. -/
  most : Nat
  /-- The delay before the next one; zero at the start. -/
  previous : Nat
  /-- The next delay. -/
  current : Nat
  deriving DecidableEq, Repr

namespace Fibonacci

/-- A sequence of delays between two bounds. -/
def between (least most : Nat) : Fibonacci :=
  let least := max least 1
  ⟨least, max most least, 0, least⟩

/-- The next delay, and where the sequence stands after it. -/
def next (f : Fibonacci) : Nat × Fibonacci :=
  (f.current,
    { f with previous := f.current, current := min (f.previous + f.current) f.most })

/-- Back to the first delay. -/
def reset (f : Fibonacci) : Fibonacci := { f with previous := 0, current := f.least }

end Fibonacci

end HookRelay.Retry

import HookRelay.Retry.Registry

/-!
# Delays of a source that fails again and again

The failures of a source are counted, and the number of failures determines the delay: where `n`
failures are counted, the sequence of delays has moved on by `n` places. One more failure is
answered with the next delay, and a success starts both over.

## Main definitions

* `Fibonacci.after`, `Bounds.delay` : the sequence after some delays, and the delay that comes then
* `Registry.Counts` : how many failures are counted under a key

## Main statements

* `Bounds.delay_add_two` : each delay is the sum of the two before it, up to the bound
* `Registry.Counts.fail`, `Registry.Counts.reset` : what a failure and a success do
-/

namespace HookRelay.Retry

/-! ## The delays -/

/-- A sequence of delays that has moved on by some places. -/
def Fibonacci.after (least most : Nat) : Nat → Fibonacci
  | 0 => .between least most
  | n + 1 => (after least most n).next.2

/-- The delay behind some failures in a row, in seconds: the backoff. -/
def Bounds.delay (b : Bounds) (n : Nat) : Nat := (Fibonacci.after b.least b.most n).current

section After

variable (least most n : Nat)

@[simp] theorem Fibonacci.least_after : (after least most n).least = max least 1 := by
  induction n with
  | zero => rfl
  | succ n ih => exact ih

@[simp] theorem Fibonacci.most_after : (after least most n).most = max most (max least 1) := by
  induction n with
  | zero => rfl
  | succ n ih => exact ih

/-- Wherever a sequence stands, it starts over at its first delay. -/
@[simp] theorem Fibonacci.reset_after : (after least most n).reset = .between least most := by
  simp [reset, between]

end After

/-- The first delay is the lower bound. -/
theorem Bounds.delay_zero (b : Bounds) : b.delay 0 = max b.least 1 := rfl

theorem Bounds.delay_one (b : Bounds) : b.delay 1 = max b.least 1 := by
  show min (0 + max b.least 1) (max b.most (max b.least 1)) = max b.least 1
  omega

/-- Each delay is the sum of the two before it, up to the upper bound. -/
theorem Bounds.delay_add_two (b : Bounds) (n : Nat) :
    b.delay (n + 2) = min (b.delay n + b.delay (n + 1)) (max b.most (max b.least 1)) := by
  rw [← Fibonacci.most_after b.least b.most (n + 1)]
  rfl

/-! ## The failures that are counted -/

namespace Registry

/-- A number of failures is counted under a key, and the delays have moved on by as many places. A
source that never failed need not be known. -/
def Counts (b : Bounds) (k : String) (n : Nat) (g : Registry) : Prop :=
  (g.find? k).getD (fresh b) = ⟨.after b.least b.most n, n⟩

variable {b : Bounds} {k : String} {n : Nat} {g g' : Registry}

theorem counts_of_unknown (unknown : g.find? k = none) : g.Counts b k 0 := by
  rw [Counts, unknown]
  rfl

theorem Counts.congr (counts : g.Counts b k n) (same : g'.find? k = g.find? k) :
    g'.Counts b k n := by
  rw [Counts, same]
  exact counts

/-- **One more failure** is answered with the delay behind all those that are counted. -/
theorem Counts.fail (counts : g.Counts b k n) :
    (fail b k g).1 = (b.delay n, n + 1) ∧ (fail b k g).2.Counts b k (n + 1) ∧
      ((fail b k g).2.find? k).map Record.failures = some (n + 1) := by
  unfold Counts at counts
  simp only [Registry.fail, counts, Counts, find?_put_self]
  exact ⟨rfl, rfl, rfl⟩

/-- **A success** starts the count and the delays over. -/
theorem Counts.reset (counts : g.Counts b k n) : (reset k g).2.Counts b k 0 := by
  cases known : g.find? k with
  | none =>
    rw [Registry.reset, known]
    exact counts_of_unknown known
  | some r =>
    have record : r = ⟨.after b.least b.most n, n⟩ := by
      rw [Counts, known] at counts
      exact counts
    simp only [Registry.reset, known, Counts, find?_put_self, record, Fibonacci.reset_after]
    rfl

theorem find?_fail_of_ne {other : String} (ne : other ≠ k) :
    (fail b k g).2.find? other = g.find? other :=
  find?_put_of_ne ne _ g

theorem find?_reset_of_ne {other : String} (ne : other ≠ k) :
    (reset k g).2.find? other = g.find? other := by
  cases known : g.find? k with
  | none => rw [reset, known]
  | some r =>
    rw [reset, known]
    exact find?_put_of_ne ne _ g

end Registry

end HookRelay.Retry

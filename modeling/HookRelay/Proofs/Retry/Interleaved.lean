import HookRelay.Proofs.Retry.Delays
import Mathlib.Data.List.Basic
import Mathlib.Data.Nat.Fib.Basic

/-!
# Failures and successes of many sources, in any order

Sources fail and succeed in any order, and each one waits for its own failures only. Whatever was
recorded before, the next failure of a source is answered with the number of its failures since its
last success, and with the delay at that place of the sequence. The delays are capped at every step,
and the capped delays are added up to the next ones; still each of them is the number that a single
cap gives, as the sums that were cut off are beyond the bound anyway.

For the same reason nothing is lost when seconds are kept in words of 64 bits and sums stop at the
largest word.

## Main definitions

* `Call`, `Registry.run` : failures and successes, and what is recorded after them
* `failuresSince` : the failures under a key since its last success
* `Words` : a record in words of fixed width

## Main statements

* `Bounds.delay_eq` : the delays in closed form
* `Registry.counts_run` : what is recorded after any calls
* `Words.toRecord_through` : a record in words is the same
* `Registry.answers_run` : how a failure and a success are answered after any calls
-/

namespace HookRelay.Retry

/-! ## The delays in closed form -/

/-- **The delays in closed form**: capping every sum is capping once. -/
theorem Bounds.delay_eq (b : Bounds) (n : Nat) : b.delay n =
    min (max b.most (max b.least 1)) (max b.least 1 * Nat.fib (n + 1)) := by
  induction n using Nat.twoStepInduction with
  | zero =>
    rw [delay_zero, Nat.zero_add, Nat.fib_one]
    omega
  | one =>
    rw [delay_one, Nat.fib_two]
    omega
  | more n ih ih' =>
    rw [delay_add_two, ih, ih', Nat.fib_add_two (n := n + 1), Nat.mul_add]
    omega

example : (List.range 7).map (Bounds.delay ⟨60, 600⟩) = [60, 60, 120, 180, 300, 480, 600] := by
  decide

/-! ## Calls in any order -/

/-- What happens to a source: it fails (`Registry.fail`), or it succeeds (`Registry.reset`). -/
inductive Call where
  | fail (key : String)
  | reset (key : String)
  deriving DecidableEq

/-- The key of the source. -/
def Call.key : Call → String
  | fail k => k
  | reset k => k

/-- The failures under a key since its last success. -/
def failuresSince (k : String) (calls : List Call) : Nat :=
  (calls.reverse.takeWhile (· ≠ .reset k)).count (.fail k)

section Since

variable {k other : String} (calls : List Call)

@[simp] theorem failuresSince_fail :
    failuresSince k (calls ++ [.fail k]) = failuresSince k calls + 1 := by
  simp [failuresSince]

@[simp] theorem failuresSince_reset : failuresSince k (calls ++ [.reset k]) = 0 := by
  simp [failuresSince]

/-- What happens to other sources does not count. -/
theorem failuresSince_of_ne {c : Call} (ne : c.key ≠ k) :
    failuresSince k (calls ++ [c]) = failuresSince k calls := by
  have noReset : c ≠ .reset k := fun same => ne (congrArg Call.key same)
  have noFail : c ≠ .fail k := fun same => ne (congrArg Call.key same)
  simp [failuresSince, noReset, noFail]

theorem failuresSince_filter :
    failuresSince k (calls.filter (·.key = k)) = failuresSince k calls := by
  induction calls using List.reverseRecOn with
  | nil => rfl
  | append_singleton calls c ih =>
    by_cases own : c.key = k
    · rw [List.filter_append, List.filter_singleton, decide_eq_true own]
      cases c with
      | fail l =>
        obtain rfl : l = k := own
        simp [ih]
      | reset l =>
        obtain rfl : l = k := own
        simp
    · simp [failuresSince_of_ne calls own, own, ih]

end Since

namespace Registry

/-- What one call leaves recorded. -/
def step (b : Bounds) (g : Registry) : Call → Registry
  | .fail k => (fail b k g).2
  | .reset k => (reset k g).2

/-- What is recorded after some calls. -/
def run (b : Bounds) (calls : List Call) : Registry := calls.foldl (step b) []

variable {b : Bounds} {k : String} {g : Registry}

theorem run_append_singleton (calls : List Call) (c : Call) :
    run b (calls ++ [c]) = step b (run b calls) c := by
  simp [run]

theorem find?_step_of_ne {c : Call} (ne : c.key ≠ k) : (step b g c).find? k = g.find? k := by
  cases c with
  | fail other => exact find?_fail_of_ne (Ne.symm ne)
  | reset other => exact find?_reset_of_ne (Ne.symm ne)

/-- **What is recorded after any calls**: the failures since the last success. -/
theorem counts_run (b : Bounds) (calls : List Call) (k : String) :
    (run b calls).Counts b k (failuresSince k calls) := by
  induction calls using List.reverseRecOn with
  | nil => exact counts_of_unknown rfl
  | append_singleton calls c ih =>
    rw [run_append_singleton]
    by_cases own : c.key = k
    · cases c with
      | fail l =>
        obtain rfl : l = k := own
        rw [failuresSince_fail]
        exact ih.fail.2.1
      | reset l =>
        obtain rfl : l = k := own
        rw [failuresSince_reset]
        exact ih.reset
    · rw [failuresSince_of_ne calls own]
      exact ih.congr (find?_step_of_ne own)

/-- A success says whether there were failures. -/
theorem Counts.reset_answer {n : Nat} (counts : g.Counts b k n) :
    (Registry.reset k g).1 = decide (0 < n) := by
  rw [Counts] at counts
  cases known : g.find? k with
  | none =>
    rw [known] at counts
    obtain rfl : 0 = n := congrArg Record.failures counts
    simp [Registry.reset, known]
  | some r =>
    rw [known, Option.getD_some] at counts
    simp [Registry.reset, known, counts]

end Registry

/-! ## Records in words -/

/-- The sum of two words, or the largest word if the sum is none. -/
def addUpTo (a b : UInt64) : UInt64 := if a + b < a then UInt64.ofNat (UInt64.size - 1) else a + b

theorem toNat_addUpTo (a b : UInt64) :
    (addUpTo a b).toNat = min (a.toNat + b.toNat) (UInt64.size - 1) := by
  have := a.toNat_lt
  have := b.toNat_lt
  rw [addUpTo]
  split
  · next wraps =>
    rw [UInt64.lt_iff_toNat_lt, UInt64.toNat_add] at wraps
    rw [UInt64.toNat_ofNat']
    simp only [UInt64.size]
    omega
  · next fits =>
    rw [UInt64.lt_iff_toNat_lt, UInt64.toNat_add] at fits
    rw [UInt64.toNat_add]
    simp only [UInt64.size]
    omega

/-- **A record in words**: seconds in 64 bits, failures in 32. -/
structure Words where
  least : UInt64
  most : UInt64
  previous : UInt64
  current : UInt64
  failures : UInt32

namespace Words

/-- The record of a source that never failed. -/
def start (least most : UInt64) : Words :=
  ⟨max least 1, max most (max least 1), 0, max least 1, 0⟩

/-- One more failure: its answer, and the record behind it. -/
def fail (w : Words) : (UInt64 × UInt32) × Words :=
  ((w.current, w.failures + 1),
    { w with
      previous := w.current
      current := min (addUpTo w.previous w.current) w.most
      failures := w.failures + 1 })

/-- A success. -/
def reset (w : Words) : Words := { w with previous := 0, current := w.least, failures := 0 }

/-- The record under a key after some calls. -/
def through (least most : UInt64) (k : String) (calls : List Call) : Words :=
  calls.foldl (fun w c => if c = .fail k then w.fail.2 else if c = .reset k then w.reset else w)
    (start least most)

/-- The numbers that a record in words stands for. -/
def toRecord (w : Words) : Record :=
  ⟨⟨w.least.toNat, w.most.toNat, w.previous.toNat, w.current.toNat⟩, w.failures.toNat⟩

theorem toNat_max (a b : UInt64) : (max a b).toNat = max a.toNat b.toNat := by
  show (if a ≤ b then b else a).toNat = _
  simp only [UInt64.le_iff_toNat_le]
  split <;> omega

theorem toNat_min (a b : UInt64) : (min a b).toNat = min a.toNat b.toNat := by
  show (if a ≤ b then a else b).toNat = _
  simp only [UInt64.le_iff_toNat_le]
  split <;> omega

variable {least most : UInt64} {k : String} (calls : List Call)

theorem toRecord_start :
    (start least most).toRecord = Registry.fresh ⟨least.toNat, most.toNat⟩ := by
  simp [start, toRecord, Registry.fresh, Fibonacci.between, toNat_max]

/-- A sum that stops at the largest word is above every bound, so capping hides where it stopped. -/
theorem toRecord_fail {w : Words} (few : w.failures.toNat + 1 < 2 ^ 32) :
    w.fail.2.toRecord = ⟨w.toRecord.delays.next.2, w.toRecord.failures + 1⟩ := by
  have current : (min (addUpTo w.previous w.current) w.most).toNat =
      min (w.previous.toNat + w.current.toNat) w.most.toNat := by
    have := w.most.toNat_lt
    rw [toNat_min, toNat_addUpTo]
    simp only [UInt64.size]
    omega
  have failures : (w.failures + 1).toNat = w.failures.toNat + 1 := by
    rw [UInt32.toNat_add]
    exact Nat.mod_eq_of_lt few
  simp [fail, toRecord, Fibonacci.next, current, failures]

theorem through_append_singleton (c : Call) : through least most k (calls ++ [c]) =
    let w := through least most k calls
    if c = .fail k then w.fail.2 else if c = .reset k then w.reset else w := by
  simp [through]

/-- The bounds stay in a record. -/
theorem bounds_through : (through least most k calls).least = (start least most).least ∧
    (through least most k calls).most = (start least most).most := by
  induction calls using List.reverseRecOn with
  | nil => exact ⟨rfl, rfl⟩
  | append_singleton calls c ih =>
    rw [through_append_singleton]
    dsimp only
    split
    · exact ih
    · split <;> exact ih

/-- **A record in words is the same**, as long as failures can be counted. -/
theorem toRecord_through (few : failuresSince k calls < 2 ^ 32) :
    (through least most k calls).toRecord =
      ⟨.after least.toNat most.toNat (failuresSince k calls), failuresSince k calls⟩ := by
  induction calls using List.reverseRecOn with
  | nil => exact toRecord_start
  | append_singleton calls c ih =>
    rw [through_append_singleton]
    dsimp only
    split
    · next failed =>
      subst failed
      rw [failuresSince_fail] at few ⊢
      have before := ih (by omega)
      have counted : (through least most k calls).failures.toNat = failuresSince k calls :=
        congrArg Record.failures before
      rw [toRecord_fail (by omega), before]
      rfl
    · next notFailed =>
      split
      · next succeeded =>
        -- a success starts over wherever the record stands, also where the count was lost
        subst succeeded
        obtain ⟨same, same'⟩ : (through least most k calls).least = (start least most).least ∧
            (through least most k calls).most = (start least most).most := bounds_through calls
        rw [failuresSince_reset]
        exact Eq.trans (by simp [reset, toRecord, start, same, same']) toRecord_start
      · next notSucceeded =>
        have ne : c.key ≠ k := by
          rintro rfl
          cases c with
          | fail => exact notFailed rfl
          | reset => exact notSucceeded rfl
        rw [failuresSince_of_ne calls ne] at few ⊢
        exact ih few

end Words

/-! ## Answers -/

/-- Keys tell sources apart whose namespaces hold no slash. -/
theorem key_injective {ns ns' name name' : String} (plain : '/' ∉ ns.toList)
    (plain' : '/' ∉ ns'.toList) (same : key ns name = key ns' name') : ns = ns' ∧ name = name' := by
  have chars : ns.toList ++ '/' :: name.toList = ns'.toList ++ '/' :: name'.toList := by
    simpa [key] using congrArg String.toList same
  have cut (l rest : List Char) (plain : '/' ∉ l) :
      (l ++ '/' :: rest).takeWhile (· ≠ '/') = l ∧
        (l ++ '/' :: rest).dropWhile (· ≠ '/') = '/' :: rest := by
    have all : ∀ c ∈ l, (decide (c ≠ '/')) = true := fun c mem =>
      decide_eq_true fun slash => plain (slash ▸ mem)
    rw [List.takeWhile_append_of_pos all, List.dropWhile_append_of_pos all]
    simp
  obtain ⟨front, back⟩ := cut ns.toList name.toList plain
  obtain ⟨front', back'⟩ := cut ns'.toList name'.toList plain'
  rw [chars, front'] at front
  rw [chars, back'] at back
  exact ⟨(String.toList_inj.1 front).symm, (String.toList_inj.1 (List.cons.inj back).2).symm⟩

namespace Registry

variable (least most : UInt64) (calls : List Call) (k : String)

/-- **How a failure and a success are answered after any calls.** A failure is answered with the
delay at the place of the Fibonacci numbers that the failures since the last success give, capped
once, and with their number; a success says whether there were any. What happens under other keys
has no influence. As long as failures can be counted in 32 bits, words of 64 bits give the same
answer. Different sources have different keys if their namespaces hold no slash. -/
theorem answers_run :
    let b : Bounds := ⟨least.toNat, most.toNat⟩
    let m := max b.least 1
    let n := failuresSince k calls
    (fail b k (run b calls)).1 = (min (max b.most m) (m * Nat.fib (n + 1)), n + 1) ∧
    (reset k (run b calls)).1 = decide (0 < n) ∧
    (∀ calls' : List Call, calls'.filter (·.key = k) = calls.filter (·.key = k) →
      (fail b k (run b calls')).1 = (fail b k (run b calls)).1 ∧
      (reset k (run b calls')).1 = (reset k (run b calls)).1) ∧
    (n + 1 < 2 ^ 32 → ∃ delay failures w,
      (Words.through least most k calls).fail = ((delay, failures), w) ∧
      (fail b k (run b calls)).1 = (delay.toNat, failures.toNat)) ∧
    ∀ ns name ns' name', '/' ∉ ns.toList → '/' ∉ ns'.toList →
      key ns name = key ns' name' → ns = ns' ∧ name = name' := by
  intro b m n
  have failed (calls : List Call) : (fail b k (run b calls)).1 =
      (b.delay (failuresSince k calls), failuresSince k calls + 1) := (counts_run b calls k).fail.1
  have succeeded (calls : List Call) := (counts_run b calls k).reset_answer
  refine ⟨?_, succeeded calls, fun calls' same => ?_, fun few => ⟨_, _, _, rfl, ?_⟩,
    fun ns name ns' name' => key_injective⟩
  · rw [failed, Bounds.delay_eq]
  · have since : failuresSince k calls' = failuresSince k calls := by
      rw [← failuresSince_filter calls', same, failuresSince_filter]
    rw [failed, failed, succeeded, succeeded, since]
    exact ⟨rfl, rfl⟩
  · have record : (Words.through least most k calls).toRecord = ⟨.after least.toNat most.toNat
        (failuresSince k calls), failuresSince k calls⟩ := Words.toRecord_through calls (by omega)
    have current := congrArg (fun r => r.delays.current) record
    have failures := congrArg Record.failures record
    have more : ((Words.through least most k calls).failures + 1).toNat = n + 1 := by
      rw [UInt32.toNat_add]
      exact (congrArg (fun f => (f + 1) % 2 ^ 32) failures).trans (Nat.mod_eq_of_lt few)
    rw [failed]
    exact Prod.ext current.symm more.symm

end Registry

end HookRelay.Retry

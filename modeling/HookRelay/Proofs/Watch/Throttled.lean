import HookRelay.Watch.Failure
import Mathlib.Data.List.Induction

/-!
# Waiting for a throttled watch

A watch that is throttled again and again waits longer and longer, until a source was looked at
without a failure. All that is kept is one number, the next wait. It is doubled and capped after
each wait, so that the waits are those of a doubling that is capped once; doubling stops at the
largest number that is counted, which no cap lies above.

The first wait was never doubled, and so it was never capped: it is what the settings say, also
where they say less for the longest wait. No other wait is above the cap.

## Main definitions

* `throttledSince` : the throttlings since a source was last looked at
* `Limits.scheduled` : the waits in closed form

## Main statements

* `Limits.backoff_handle_of_ne` : a failure that is no throttling leaves the next wait as it is
* `Limits.after_eq` : the next wait behind any items, in closed form
* `limits_handle` : what is done about a failure behind any items, for all settings
* `first_wait_above_cap` : a first wait above the cap
-/

namespace HookRelay.Watch

variable {l : Limits} {start backoff : Nat}

/-! ## Items of a watch -/

/-- Whether the watch was throttled, by `classify`. -/
def Item.isThrottled : Item → Bool
  | looked => false
  | failed text => classify text = .throttled

theorem Limits.after_append_singleton (items : List Item) (item : Item) :
    l.after start (items ++ [item]) = l.next start (l.after start items) item := by
  simp [after]

/-- The throttlings since a source was last `looked` at. -/
def throttledSince (items : List Item) : Nat :=
  (items.reverse.takeWhile (· ≠ .looked)).countP Item.isThrottled

section Since

variable (items : List Item) (text : String)

@[simp] theorem throttledSince_looked : throttledSince (items ++ [.looked]) = 0 := by
  simp [throttledSince]

theorem throttledSince_failed : throttledSince (items ++ [.failed text]) =
    throttledSince items + if classify text = .throttled then 1 else 0 := by
  simp [throttledSince, List.countP_cons, Item.isThrottled]

end Since

/-! ## One failure -/

/-- **A throttled watch waits**, and will wait longer the next time. -/
theorem Limits.handle_of_throttled {text : String} (throttled : classify text = .throttled) :
    l.handle backoff text = ⟨false, backoff, l.double backoff⟩ := by
  rw [handle, throttled]

/-- **A failure that is no throttling** leaves the next wait as it is. -/
theorem Limits.backoff_handle_of_ne {text : String} (other : classify text ≠ .throttled) :
    (l.handle backoff text).backoff = backoff := by
  rw [handle]
  cases kind : classify text with
  | throttled => exact absurd kind other
  | unauthorized | expired | notFound | other => rfl

/-! ## The waits in closed form -/

/-- **The waits in closed form**: the first one is what was set (`BACKOFF_START_MS`), and the others
are doubled as often as the watch was throttled, and capped (`BACKOFF_MAX_MS`). -/
def Limits.scheduled (l : Limits) (start : Nat) : Nat → Nat
  | 0 => start
  | k + 1 => min l.most (start * Nat.pow 2 (k + 1))

/-- Doubling the capped number and capping it again is doubling once more before the cap. -/
theorem Limits.double_scheduled (counted : l.most ≤ longest) (k : Nat) :
    l.double (l.scheduled start k) = l.scheduled start (k + 1) := by
  cases k with
  | zero =>
    show min (min (start * 2) longest) l.most = min l.most (start * 2)
    omega
  | succ k =>
    have power : start * Nat.pow 2 (k + 1 + 1) = start * Nat.pow 2 (k + 1) * 2 :=
      (Nat.mul_assoc start (Nat.pow 2 (k + 1)) 2).symm
    rw [double, scheduled, scheduled, power]
    omega

/-- **The next wait behind any items**, in closed form. -/
theorem Limits.after_eq (counted : l.most ≤ longest) (items : List Item) :
    l.after start items = l.scheduled start (throttledSince items) := by
  induction items using List.reverseRecOn with
  | nil => rfl
  | append_singleton items item ih =>
    rw [after_append_singleton, ih]
    cases item with
    | looked =>
      rw [throttledSince_looked]
      rfl
    | failed text =>
      rw [throttledSince_failed, next]
      by_cases throttled : classify text = .throttled
      · rw [handle_of_throttled throttled, if_pos throttled]
        exact double_scheduled counted _
      · rw [backoff_handle_of_ne throttled, if_neg throttled, Nat.add_zero]

/-- A wait is what one cap leaves of the doubling, but for a first wait above the cap. -/
theorem Limits.scheduled_eq_iff {k : Nat} :
    l.scheduled start k = min l.most (start * Nat.pow 2 k) ↔ ¬ (k = 0 ∧ l.most < start) := by
  cases k with
  | zero =>
    show start = min l.most (start * 1) ↔ _
    omega
  | succ k => simp [scheduled]

/-- Only a first wait is above the cap, and only if it was set so. -/
theorem Limits.most_lt_scheduled_iff {k : Nat} :
    l.most < l.scheduled start k ↔ k = 0 ∧ l.most < start := by
  cases k with
  | zero => simp [scheduled]
  | succ k =>
    rw [scheduled]
    omega

/-- What is set and what is capped can be counted. -/
theorem Limits.scheduled_le (counted : l.most ≤ longest) (set : start ≤ longest) (k : Nat) :
    l.scheduled start k ≤ longest := by
  cases k with
  | zero => exact set
  | succ k => exact Nat.le_trans (Nat.min_le_left _ _) counted

end HookRelay.Watch

/-! ## Numbers that are set -/

namespace HookRelay.Decimal

variable {most m n : Nat} {above : WholeFault}

/-- Digits are read as long as the number stays within its bound. -/
theorem le_of_readDigits {cs : List Char} (within : m ≤ most)
    (read : readDigits most above m cs = .ok n) : n ≤ most := by
  induction cs generalizing m with
  | nil =>
    cases read
    exact within
  | cons c cs ih =>
    rw [readDigits] at read
    split at read
    · dsimp only at read
      split at read
      · next fits => exact ih fits read
      · cases read
    · cases read

/-- **A number that is read is within its bound.** -/
theorem le_of_readNat {text : String} (read : readNat most text = .ok n) : n ≤ most := by
  have magnitude {cs : List Char} (read : readMagnitude most .tooLarge cs = .ok n) : n ≤ most := by
    rw [readMagnitude] at read
    split at read
    · cases read
    · exact le_of_readDigits (Nat.zero_le most) read
  rw [readNat] at read
  split at read
  · cases read
  · exact magnitude read
  · exact magnitude read

end HookRelay.Decimal

namespace HookRelay.Watch

open Controller (Settings)
open CommandLine (Environment)

/-- A number that is set can be counted, if its default can. -/
theorem long_le (env : Environment) (name : String) {default : Nat} (small : default ≤ longest) :
    Settings.long env name default ≤ longest := by
  rw [Settings.long, Settings.number?]
  cases env.text? name with
  | none => exact small
  | some text =>
    rw [Option.bind_some]
    cases read : Decimal.readNat (Nat.pow 2 64 - 1) text with
    | error fault => exact small
    | ok n => exact Decimal.le_of_readNat read

/-! ## Watches of a controller -/

/-- **What is done about a failure behind any items**, for every environment from which a controller
takes its settings. If the watch is throttled, for the first time since a source was looked at, the
wait is the one that was set; if it was throttled `k` times since then, the wait is that one doubled
`k` times and capped. So the wait is what one cap leaves of the doubling, unless it is the first one
and was set above the cap, and only that wait is above the cap. A failure that is no throttling
leaves the next wait as it is. -/
theorem limits_handle (env : Environment) (items : List Item) (text : String) :
    let s := Settings.ofEnvironment env
    let backoff := (limits s).after s.backoffStart items
    let k := throttledSince items
    let h := (limits s).handle backoff text
    (classify text = .throttled →
      h.waited = (if k = 0 then s.backoffStart
        else min s.backoffMost (s.backoffStart * Nat.pow 2 k)) ∧
      (h.waited = min s.backoffMost (s.backoffStart * Nat.pow 2 k) ↔
        ¬ (k = 0 ∧ s.backoffMost < s.backoffStart)) ∧
      (s.backoffMost < h.waited ↔ k = 0 ∧ s.backoffMost < s.backoffStart) ∧
      h.waited ≤ longest) ∧
    (classify text ≠ .throttled → h.backoff = backoff) := by
  intro s backoff k h
  have most : (limits s).most ≤ longest := long_le env "BACKOFF_MAX_MS" (by decide)
  have set : s.backoffStart ≤ longest := long_le env "BACKOFF_START_MS" (by decide)
  refine ⟨fun throttled => ?_, Limits.backoff_handle_of_ne⟩
  have waited : h.waited = (limits s).scheduled s.backoffStart k := by
    rw [show h = _ from Limits.handle_of_throttled throttled]
    exact Limits.after_eq most items
  rw [waited]
  refine ⟨?_, Limits.scheduled_eq_iff, Limits.most_lt_scheduled_iff (l := limits s),
    Limits.scheduled_le most set k⟩
  cases k with
  | zero => rfl
  | succ k => rfl

/-- **A first wait above the cap**: a controller that is told to begin with five milliseconds and to
wait three at most waits five. -/
theorem first_wait_above_cap :
    let env : Environment :=
      [("BACKOFF_START_MS", "5".toUTF8), ("BACKOFF_MAX_MS", "3".toUTF8)]
    let s := Settings.ofEnvironment env
    classify "429" = .throttled ∧ s.backoffMost = 3 ∧
      ((limits s).handle ((limits s).after s.backoffStart []) "429").waited = 5 := by
  decide +kernel

end HookRelay.Watch

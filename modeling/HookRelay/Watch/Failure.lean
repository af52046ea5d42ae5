import HookRelay.Controller.Settings

/-!
# Failures of a watch

A watch that fails says why in one text, in which only some runs of characters are telling. The
kind of a failure decides whether its event is kept, how long to wait before the watch goes on,
and whether the next wait for a throttled watch will be longer. That wait is all that the watch loop
keeps from one item of its stream to the next; a `reconcile` call that succeeds resets it.

## Main definitions

* `Failure` : the kinds of failures
* `classify` : the kind that a text tells of
* `Limits`, `limits` : how long to wait, and what the settings of a controller say of that
* `Limits.handle` : what is done about a failure
* `Item` : an item of the stream
* `Limits.next`, `Limits.after` : the next wait behind one item, and behind some
-/

namespace HookRelay.Watch

open Text (contains)

/-- The kinds of failures of a watch, of which `classify` finds one in a text. -/
inductive Failure where
  /-- The right to watch is missing: `401`. -/
  | unauthorized
  /-- The place from which to watch, a resource version, is too old: `410`. -/
  | expired
  /-- The cluster asks for patience: `429`. -/
  | throttled
  /-- The object is gone: `404`. -/
  | notFound
  | other
  deriving DecidableEq, Repr

/-- Whether a text tells of an object that is gone. -/
def tellsNotFound (text : String) : Bool :=
  contains text "ObjectNotFound" || contains text "404" || contains text "not found"

/-- Whether a text tells of a missing right. -/
def tellsUnauthorized (text : String) : Bool :=
  contains text "401" || contains text "Unauthorized"

/-- Whether a text tells of an old place. -/
def tellsExpired (text : String) : Bool :=
  contains text "410" || contains text "too old resource version" || contains text "Expired"
    || contains text "Gone"

/-- Whether a text asks for patience. -/
def tellsThrottled (text : String) : Bool :=
  contains text "429" || contains text "storage is (re)initializing"
    || contains text "TooManyRequests"

/-- The kind of failure that a text tells of. A text that also tells of an object that is gone
does not count as a missing right, but may still count as an old place or as throttling. -/
def classify (text : String) : Failure :=
  if tellsUnauthorized text && !tellsNotFound text then .unauthorized
  else if tellsExpired text then .expired
  else if tellsThrottled text then .throttled
  else if tellsNotFound text then .notFound
  else .other

/-- The largest number of milliseconds that is counted. -/
def longest : Nat := Nat.pow 2 64 - 1

/-- How long to wait. -/
structure Limits where
  /-- The longest wait, in milliseconds, that doubling arrives at, the `backoffMost` of the
  settings. -/
  most : Nat
  /-- The wait, in seconds, before a watch is started again, their `watchRestartDelay`. -/
  restartDelay : Nat

/-- The limits that a controller sets to the waits of its watches. -/
def limits (s : Controller.Settings) : Limits := ⟨s.backoffMost, s.watchRestartDelay⟩

/-- What is done about a failure. -/
structure Handling where
  /-- Whether the event goes on to whoever watches. -/
  kept : Bool
  /-- How long was waited, in milliseconds. -/
  waited : Nat
  /-- How long to wait at the next throttling, in milliseconds. -/
  backoff : Nat
  deriving DecidableEq, Repr

/-- The wait that follows a wait for a throttled watch. -/
def Limits.double (l : Limits) (backoff : Nat) : Nat := min (min (backoff * 2) longest) l.most

/-- What is done about a failure, while `backoff` is the wait for a throttled watch. -/
def Limits.handle (l : Limits) (backoff : Nat) (text : String) : Handling :=
  match classify text with
  | .unauthorized => ⟨false, l.restartDelay * 1000, backoff⟩
  | .expired => ⟨false, 0, backoff⟩
  | .throttled => ⟨false, backoff, l.double backoff⟩
  | .notFound => ⟨true, 0, backoff⟩
  | .other => ⟨false, l.restartDelay * 1000, backoff⟩

/-- An item of the stream of a watch loop: a `reconcile` call that succeeded, or an error. -/
inductive Item where
  /-- A source was looked at without a failure, and the `reconcile` call returned an action. -/
  | looked
  /-- The watch failed, and said why. -/
  | failed (text : String)
  deriving DecidableEq, Repr

/-- The next wait behind an item: a failure is handled, and anything else goes back to the start. -/
def Limits.next (l : Limits) (start backoff : Nat) : Item → Nat
  | .looked => start
  | .failed text => (l.handle backoff text).backoff

/-- The next wait behind some items of the stream, from the beginning. -/
def Limits.after (l : Limits) (start : Nat) (items : List Item) : Nat :=
  items.foldl (l.next start) start

end HookRelay.Watch

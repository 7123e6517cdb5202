import LatestTag.Error
import LatestTag.ImageTag

/-!
# Fetches

A fetch asks a registry client for the tags of an image and waits for what comes first: the answer,
the end of the time limit, or a signal to give up. Of those that have come the signal wins over the
answer and the answer over the time limit. All three are noticed by timers, which count whole
milliseconds, but for an answer without delay.
-/

namespace LatestTag

/-- How a registry client treats a request for tags. -/
structure Behaviour where
  /-- The time until it answers. -/
  delay : Nat
  /-- Its answer. -/
  answer : Except FetchError (List ImageTag)

/-- How each registry client treats a request that comes now for the tags of an image. A client is
named by its position, the default by none. -/
abbrev Clients := Option Nat → String → Behaviour

/-- A fetch that has begun. -/
structure Fetch where
  /-- When it began. -/
  began : Nat
  /-- What the registry client does. -/
  behaviour : Behaviour
  /-- The time limit, if there is one. -/
  timeout : Option Nat
  /-- The time until the signal to give up, if that ever comes. -/
  signal : Option Nat

namespace Fetch

/-- When the answer comes. -/
def completion (fetch : Fetch) : Nat := Duration.afterWait fetch.began fetch.behaviour.delay

/-- When the time limit ends. -/
def expiry (fetch : Fetch) : Option Nat :=
  fetch.timeout.map fun timeout => Duration.wake fetch.began timeout

/-- When the signal to give up comes. -/
def cancellation (fetch : Fetch) : Option Nat :=
  fetch.signal.map fun signal => Duration.wake fetch.began signal

/-- How the fetch has ended at a time, if it has. -/
def result? (fetch : Fetch) (now : Nat) : Option (Except FetchError (List ImageTag)) :=
  if fetch.cancellation.any (· ≤ now) then some (.error .cancelled)
  else if fetch.completion ≤ now then some fetch.behaviour.answer
  else if fetch.expiry.any (· ≤ now) then
    fetch.timeout.map fun timeout => .error (.timeout timeout)
  else none

/-- When the fetch ends. -/
def ending (fetch : Fetch) : Nat :=
  (fetch.cancellation.toList ++ fetch.expiry.toList).foldl min fetch.completion

/-- At its ending a fetch has ended, and not before. -/
theorem result?_isSome_iff (fetch : Fetch) (now : Nat) :
    (fetch.result? now).isSome ↔ fetch.ending ≤ now := by
  have hexpiry : fetch.expiry.isSome = fetch.timeout.isSome := by simp [expiry]
  unfold result? ending
  generalize fetch.completion = completion
  generalize fetch.cancellation = cancellation at *
  generalize fetch.expiry = expiry at *
  generalize fetch.timeout = timeout at *
  cases timeout <;> cases expiry <;> cases cancellation <;> simp at hexpiry ⊢ <;>
    (repeat' split) <;> simp <;> omega

end Fetch

end LatestTag

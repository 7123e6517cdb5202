import LatestTag.Cache
import LatestTag.Time.Duration

/-!
# The background sweeper

A sweeper sweeps a cache at regular deadlines. It notices a deadline once the clock has reached it,
which may be late, and then sweeps by the time of the deadline, not of the clock. The next deadline
comes one interval later; but if the clock was past the deadline by more than `tolerance`, the
interval counts from the clock, so that missed deadlines do not pile up. The interval is positive,
so a sweeper is always done with the present at some point.
-/

namespace LatestTag

/-- A live sweeper. -/
structure Sweeper where
  /-- The time between deadlines. -/
  interval : Nat
  /-- The interval is positive. -/
  interval_pos : 0 < interval
  /-- The next deadline. -/
  deadline : Nat

namespace Sweeper

/-- A sweeper that starts now. Its first deadline comes after one interval. -/
def start (now interval : Nat) (interval_pos : 0 < interval) : Sweeper :=
  ⟨interval, interval_pos, now + interval⟩

/-- By how much the clock may pass a deadline without moving the ones after it. -/
def tolerance : Nat := Duration.ofMillis 5

/-- The sweeper behind its deadline, at a time that has reached it. -/
def advance (sweeper : Sweeper) (now : Nat) : Sweeper :=
  { sweeper with
    deadline :=
      if now ≤ sweeper.deadline + tolerance then sweeper.deadline + sweeper.interval
      else now + sweeper.interval }

theorem deadline_lt_advance (sweeper : Sweeper) (now : Nat) :
    sweeper.deadline < (sweeper.advance now).deadline := by
  have := sweeper.interval_pos
  simp only [advance]
  split <;> omega

/-- The deadlines that have come, in order, and the sweeper behind them. -/
def due (sweeper : Sweeper) (now : Nat) : List Nat × Sweeper :=
  if sweeper.deadline ≤ now then
    let (times, later) := (sweeper.advance now).due now
    (sweeper.deadline :: times, later)
  else ([], sweeper)
termination_by now + 1 - sweeper.deadline
decreasing_by
  have := deadline_lt_advance sweeper now
  omega

/-- Behind all deadlines that have come, the next one is yet to come. -/
theorem lt_due_deadline (sweeper : Sweeper) (now : Nat) : now < (sweeper.due now).2.deadline := by
  fun_induction sweeper.due now with
  | case1 sweeper _ times later heq ih => simpa [heq] using ih
  | case2 sweeper h => simpa using h

end Sweeper

/-- The handle on a sweeper: it stops the sweeper when it is dropped. -/
inductive SweeperHandle where
  /-- The sweeper lives. -/
  | live (sweeper : Sweeper)
  /-- The sweeper has ended of itself. -/
  | ended

namespace SweeperHandle

/-- The end of the clock, which counts seconds in 63 bits. -/
def clockEnd : Nat := Duration.ofSeconds 0x7FFFFFFFFFFFFFFF

/-- Starts a sweeper. Without an interval, or with one that leads beyond the end of the clock, it
ends at once. -/
def spawn (now interval : Nat) : SweeperHandle :=
  if h : 0 < interval ∧ now + interval < clockEnd then .live (.start now interval h.1) else .ended

/-- Whether the sweeper has ended of itself. -/
def isFinished : SweeperHandle → Bool
  | live _ => false
  | ended => true

end SweeperHandle

end LatestTag

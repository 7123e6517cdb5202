/-!
# Durations and instants

Time is counted in nanoseconds. A duration is a natural number of them, and so is an instant, which
is counted from the time when the clock started. Timers count whole milliseconds: one that is set at
some instant fires a number of milliseconds later, at the first such instant that is not too early.
-/

namespace LatestTag

namespace Duration

/-- The nanoseconds of a microsecond. -/
def microsecond : Nat := 1000

/-- The nanoseconds of a millisecond. -/
def millisecond : Nat := 1000 * microsecond

/-- The nanoseconds of a second. -/
def second : Nat := 1000 * millisecond

/-- A duration of whole milliseconds. -/
def ofMillis (count : Nat) : Nat := count * millisecond

/-- A duration of whole seconds. -/
def ofSeconds (count : Nat) : Nat := count * second

/-- The first whole millisecond that is not before the instant. -/
def toTick (due : Nat) : Nat := due + (millisecond - due % millisecond) % millisecond

/-- The instant when a timer fires that is set at `now` and due at `due`. It waits from the
millisecond that has begun to the one that is not before `due`, so what the clock shows beyond a
millisecond stays as it is. -/
def fire (now due : Nat) : Nat := max now (toTick due + now % millisecond)

/-- The longest time that somebody waits: thirty years of 365 days. -/
def longestWait : Nat := ofSeconds (30 * 365 * 24 * 60 * 60)

/-- The instant when somebody is woken up who has asked for that `duration` before. -/
def wake (now duration : Nat) : Nat := fire now (now + min duration longestWait)

/-- The instant when somebody goes on who waits for some time, or not at all. -/
def afterWait (now duration : Nat) : Nat := if duration = 0 then now else wake now duration

/-- The digits of `rest` parts of `unit` behind a decimal point, without zeros at the end; `width`
is the number of zeros of `unit`. -/
def fractionText (rest width : Nat) : String :=
  let digits := Nat.toDigits 10 rest
  let padded := List.replicate (width - digits.length) '0' ++ digits
  match (padded.reverse.dropWhile (· == '0')).reverse with
  | [] => ""
  | digits => .ofList ('.' :: digits)

/-- A duration counted in a unit of `10 ^ width` nanoseconds. -/
def textIn (d : Nat) (width : Nat) (name : String) : String :=
  let unit := Nat.pow 10 width
  (d / unit).repr ++ (if width = 0 then "" else fractionText (d % unit) width) ++ name

/-- The duration as it is shown to users, in the largest unit of which it holds at least one. -/
def text (d : Nat) : String :=
  if second ≤ d then textIn d 9 "s"
  else if millisecond ≤ d then textIn d 6 "ms"
  else if microsecond ≤ d then textIn d 3 "µs"
  else textIn d 0 "ns"

theorem le_toTick (due : Nat) : due ≤ toTick due := by
  unfold toTick millisecond microsecond
  omega

theorem toTick_lt (due : Nat) : toTick due < due + millisecond := by
  unfold toTick millisecond microsecond
  omega

theorem dvd_toTick (due : Nat) : millisecond ∣ toTick due := by
  unfold toTick millisecond microsecond
  omega

theorem le_fire (now due : Nat) : due ≤ fire now due := by
  unfold fire toTick millisecond microsecond
  omega

/-- Whoever waits for some time is woken up later. -/
theorem lt_wake {now duration : Nat} (h : 0 < duration) : now < wake now duration := by
  have hle := le_fire now (now + min duration longestWait)
  have hlongest : 0 < longestWait := by decide
  unfold wake
  omega

/-- If the clock shows whole milliseconds, a timer fires at the first whole millisecond that is not
before it is due. -/
theorem fire_of_dvd {now due : Nat} (h : millisecond ∣ now) (hle : now ≤ due) :
    fire now due = toTick due := by
  unfold fire toTick millisecond microsecond at *
  omega

theorem wake_of_dvd {now duration : Nat} (h : millisecond ∣ now) (hle : duration ≤ longestWait) :
    wake now duration = toTick (now + duration) := by
  rw [wake, Nat.min_eq_left hle]
  exact fire_of_dvd h (Nat.le_add_right _ _)

end Duration

end LatestTag

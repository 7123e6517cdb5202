import LatestTag.Text.Space
import LatestTag.Time.Calendar

/-!
# Timestamps

A `Timestamp` is a time of the calendar, in UTC: whole seconds since the start of 1970 and
nanoseconds within the second. A leap second is counted with the second before it, which then has up
to two billion nanoseconds. Timestamps are written and read by RFC 3339, with signed years beyond
the four digits of that standard. Reading is more lenient than writing: it takes single digits,
white space between the parts, any offset from UTC in place of `Z`, and a few spellings of both.
-/

namespace LatestTag

/-- A time, as seconds since 1970-01-01 00:00:00 UTC and nanoseconds within the second. -/
structure Timestamp where
  /-- The whole seconds, negative before 1970. -/
  seconds : Int
  /-- The nanoseconds within the second; a billion and more within a leap second. -/
  nanos : Nat
deriving DecidableEq, Repr

namespace Timestamp

/-- Whether one time is before another. -/
def lt (s t : Timestamp) : Bool :=
  s.seconds < t.seconds || (s.seconds == t.seconds && s.nanos < t.nanos)

/-- The nanoseconds of a second. -/
def nanosPerSecond : Nat := 1000000000

/-- The seconds of a day. -/
def secondsPerDay : Int := 86400

/-- The first year of the calendar range. -/
def minYear : Int := -262143

/-- The last year of the calendar range. -/
def maxYear : Int := 262142

/-- The day of the timestamp, counted from 1970-01-01. -/
def day (t : Timestamp) : Int := t.seconds / secondsPerDay

/-- The seconds since the start of that day. -/
def secondOfDay (t : Timestamp) : Nat := (t.seconds % secondsPerDay).toNat

/-- Whether the timestamp lies within the calendar range, and a second with more than a billion
nanoseconds is the last one of its minute. -/
def IsValid (t : Timestamp) : Prop :=
  minYear ≤ (Date.ofDays t.day).year ∧ (Date.ofDays t.day).year ≤ maxYear
    ∧ (t.nanos < nanosPerSecond ∨ (t.nanos < 2 * nanosPerSecond ∧ t.secondOfDay % 60 = 59))

instance (t : Timestamp) : Decidable t.IsValid := inferInstanceAs (Decidable (_ ∧ _ ∧ _))

/-- A number with zeros in front, up to a width. -/
def padded (width n : Nat) : List Char :=
  let digits := Nat.toDigits 10 n
  List.replicate (width - digits.length) '0' ++ digits

/-- A year, with a sign unless it has four digits. -/
def yearText (year : Int) : List Char :=
  if 0 ≤ year ∧ year ≤ 9999 then padded 4 year.toNat
  else (if year < 0 then '-' else '+') :: padded 4 year.natAbs

/-- Nanoseconds behind a decimal point, in as few groups of three digits as it takes. -/
def fractionText (nanos : Nat) : List Char :=
  if nanos = 0 then []
  else if nanos % 1000000 = 0 then '.' :: padded 3 (nanos / 1000000)
  else if nanos % 1000 = 0 then '.' :: padded 6 (nanos / 1000)
  else '.' :: padded 9 nanos

/-- The timestamp by RFC 3339, in UTC. -/
def text (t : Timestamp) : String :=
  let date := Date.ofDays t.day
  let second := t.secondOfDay % 60 + t.nanos / nanosPerSecond
  .ofList <| yearText date.year ++ '-' :: padded 2 date.month ++ '-' :: padded 2 date.day
    ++ 'T' :: padded 2 (t.secondOfDay / 3600) ++ ':' :: padded 2 (t.secondOfDay / 60 % 60)
    ++ ':' :: padded 2 second ++ fractionText (t.nanos % nanosPerSecond) ++ ['Z']

/-- A number of one digit at least and `limit` digits at most. -/
def readNumber (limit : Nat) (ahead : List Char) : Option (Nat × List Char) :=
  let digits := (ahead.take limit).takeWhile Char.isDigit
  if digits.isEmpty then none
  else some (Nat.ofDigitChars 10 digits 0, ahead.drop digits.length)

/-- A number that may follow white space. -/
def readField (limit : Nat) (ahead : List Char) : Option (Nat × List Char) :=
  readNumber limit (Text.trimStart ahead)

/-- A sign that may follow white space. -/
def readSign (sign : Char) (ahead : List Char) : Option (List Char) :=
  match Text.trimStart ahead with
  | c :: rest => if c = sign then some rest else none
  | [] => none

/-- A year: four digits at most, or any number of digits behind a sign. -/
def readYear (ahead : List Char) : Option (Int × List Char) :=
  match Text.trimStart ahead with
  | '-' :: rest => (readNumber rest.length rest).map fun (year, rest) => (-(year : Int), rest)
  | '+' :: rest => (readNumber rest.length rest).map fun (year, rest) => ((year : Int), rest)
  | ahead => (readNumber 4 ahead).map fun (year, rest) => ((year : Int), rest)

/-- A date within the calendar range. -/
def readDate (ahead : List Char) : Option (Date × List Char) := do
  let (year, rest) ← readYear ahead
  let (month, rest) ← readField 2 (← readSign '-' rest)
  let (day, rest) ← readField 2 (← readSign '-' rest)
  let date : Date := ⟨year, month, day⟩
  if date.IsValid ∧ minYear ≤ year ∧ year ≤ maxYear then some (date, rest) else none

/-- The digits behind a decimal point, as nanoseconds; those beyond the ninth are left out. Without
a point there are none. -/
def readFraction : List Char → Option (Nat × List Char)
  | '.' :: rest => do
    let (value, after) ← readNumber 9 rest
    let digits := rest.length - after.length
    some (value * Nat.pow 10 (9 - digits), after.dropWhile Char.isDigit)
  | ahead => some (0, ahead)

/-- A time of day, as its second and the nanoseconds within. -/
def readTime (ahead : List Char) : Option ((Nat × Nat) × List Char) := do
  let (hour, rest) ← readField 2 ahead
  let (minute, rest) ← readField 2 (← readSign ':' rest)
  let (second, rest) ← readField 2 (← readSign ':' rest)
  let (nanos, rest) ← readFraction rest
  if hour < 24 ∧ minute < 60 ∧ second ≤ 60 then
    let leap := second = 60
    some ((hour * 3600 + minute * 60 + if leap then 59 else second,
      nanos + if leap then nanosPerSecond else 0), rest)
  else none

/-- Exactly two digits. -/
def readTwoDigits : List Char → Option (Nat × List Char)
  | a :: b :: rest =>
    if a.isDigit ∧ b.isDigit then some (Nat.ofDigitChars 10 [a, b] 0, rest) else none
  | _ => none

/-- The hours and minutes of an offset from UTC, less than a day, in seconds. -/
def readOffsetSize (ahead : List Char) : Option (Int × List Char) := do
  let (hours, rest) ← readTwoDigits ahead
  let (minutes, rest) ← readTwoDigits (rest.dropWhile fun c => c == ':' || Text.isSpace c)
  if hours < 24 ∧ minutes < 60 then some ((hours * 3600 + minutes * 60 : Nat), rest) else none

/-- An offset from UTC, in seconds. -/
def readOffset : List Char → Option (Int × List Char)
  | 'Z' :: rest | 'z' :: rest => some (0, rest)
  | '+' :: rest => readOffsetSize rest
  | '-' :: rest | '−' :: rest =>
    (readOffsetSize rest).map fun (offset, rest) => (-offset, rest)
  | u :: t :: c :: rest =>
    if [u, t, c].map Char.toUpper = ['U', 'T', 'C'] then some (0, rest) else none
  | _ => none

/-- The timestamp that a text names, if it names one within the calendar range. -/
def ofText? (text : String) : Option Timestamp := do
  let (date, rest) ← readDate text.toList
  let separator ← rest.head?
  guard (['T', 't', ' '].contains separator)
  let ((second, nanos), rest) ← readTime (rest.drop 1)
  let (offset, rest) ← readOffset (Text.trimStart rest)
  let timestamp : Timestamp := ⟨date.toDays * secondsPerDay + second - offset, nanos⟩
  let year := (Date.ofDays timestamp.day).year
  if (Text.trimStart rest).isEmpty && minYear ≤ year && year ≤ maxYear then some timestamp
  else none

end Timestamp

end LatestTag

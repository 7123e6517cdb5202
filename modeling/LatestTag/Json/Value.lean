import LatestTag.Json.Number
import LatestTag.Json.Text
import LatestTag.Text.Inspect

/-!
# Values of a kind

A field of a record holds values of one kind: a truth value, a string, or a natural number of 64
bits that may be missing. A value of another kind is refused with a message that shows it, after it
has been read; what a list or an object holds is not read for that.
-/

namespace LatestTag.Json

/-- A number as it is shown in messages. -/
def Number.inspect : Number → String
  | .natural n => "integer `" ++ n.repr ++ "`"
  | .negative n => "integer `-" ++ n.repr ++ "`"
  | .floating isNegative magnitude =>
    "floating point `" ++ (if isNegative then "-" else "") ++ magnitude.text ++ "`"

/-- The message for a value of the wrong kind. -/
def wrongKind (found expected : String) : Problem :=
  .unsuitable ("invalid type: " ++ found ++ ", expected " ++ expected)

namespace Reader

/-- Reads a value and shows it. -/
def inspected : Reader String := do
  let first ← peek
  if first = 'n' then do
    word ['n', 'u', 'l', 'l']
    return "null"
  else if first = 't' then do
    word ['t', 'r', 'u', 'e']
    return "boolean `true`"
  else if first = 'f' then do
    word ['f', 'a', 'l', 's', 'e']
    return "boolean `false`"
  else if first = '"' then do
    return "string " ++ Text.quote (← quoted)
  else if first = '-' || first.isDigit then do
    return (← number).inspect
  else if first = '[' then return "sequence"
  else if first = '\x7b' then return "map"
  else fail .malformed

/-- Refuses the next value. -/
def refuse {α : Type} (expected : String) : Reader α := do
  fail (wrongKind (← inspected) expected)

/-- A truth value. -/
def bool : Reader Bool := do
  let first ← peek
  if first = 't' then do
    word ['t', 'r', 'u', 'e']
    return true
  else if first = 'f' then do
    word ['f', 'a', 'l', 's', 'e']
    return false
  else refuse "a boolean"

/-- A string; `expected` names what is asked for. -/
def string (expected : String) : Reader String := do
  if (← peek) = '"' then quoted else refuse expected

/-- A value, or `null` where there is none. -/
def option {α : Type} (reader : Reader α) : Reader (Option α) := do
  if (← peek) = 'n' then do
    word ['n', 'u', 'l', 'l']
    return none
  else return some (← reader)

/-- A natural number of 64 bits. -/
def uint64 : Reader UInt64 := do
  let first ← peek
  if first = '-' || first.isDigit then do
    match ← number with
    | .natural n => return UInt64.ofNat n
    | .negative n =>
      fail (.unsuitable ("invalid value: " ++ (Number.negative n).inspect ++ ", expected u64"))
    | .floating isNegative magnitude =>
      fail (wrongKind (Number.floating isNegative magnitude).inspect "u64")
  else refuse "u64"

end Reader

end LatestTag.Json

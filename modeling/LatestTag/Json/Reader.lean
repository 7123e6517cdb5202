/-!
# Reading JSON

JSON text is read character by character, and what is wrong with it is reported at the first place
where it is wrong: the text may end too early, may not be JSON, or may be JSON that does not suit
the value that is asked for. A `Reader` reads one value from the characters ahead and leaves those
behind it.
-/

namespace LatestTag.Json

/-- What is wrong with a text. -/
inductive Problem where
  /-- The text ends within a value. -/
  | ended
  /-- The text is not JSON. -/
  | malformed
  /-- The text does not suit the value that is asked for; the message says why. -/
  | unsuitable (message : String)
  /-- A string does not hold what is asked for, and there is no more to say. -/
  | unreadable
deriving DecidableEq, Repr

/-- Reading a value from the characters ahead. -/
abbrev Reader (α : Type) := StateT (List Char) (Except Problem) α

/-- Whether the character may stand between two tokens. -/
def isSpace (c : Char) : Bool := c == ' ' || c == '\n' || c == '\t' || c == '\r'

/-- The characters behind the space ahead. -/
def skipSpace (ahead : List Char) : List Char := ahead.dropWhile isSpace

namespace Reader

/-- Gives up. -/
def fail {α : Type} (problem : Problem) : Reader α := fun _ => .error problem

/-- Skips space and gives the next character, which stays ahead. -/
def peek : Reader Char := fun ahead =>
  match skipSpace ahead with
  | [] => .error .ended
  | c :: rest => .ok (c, c :: rest)

/-- Takes the next character, whatever it is. -/
def skip : Reader Unit := fun ahead => .ok ((), ahead.drop 1)

/-- Takes these characters. -/
def word (expected : List Char) : Reader Unit := fun ahead =>
  match expected, ahead with
  | [], ahead => .ok ((), ahead)
  | _ :: _, [] => .error .ended
  | e :: expected, c :: ahead => if e = c then word expected ahead else .error .malformed

/-- What a reader of a whole text gives: behind the value only space may follow. -/
def run {α : Type} (reader : Reader α) (text : String) : Except Problem α := do
  let (value, rest) ← reader text.toList
  if (skipSpace rest).isEmpty then .ok value else .error .malformed

end Reader

end LatestTag.Json

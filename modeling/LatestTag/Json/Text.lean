import LatestTag.Json.Reader
import LatestTag.Json.Write

/-!
# JSON strings

A string stands between double quotes. Escapes name the characters that cannot stand there as they
are; those by code point have four hexadecimal digits, and two of them make a character beyond the
range of four digits. Where the value of a string does not matter it is only skipped, and then any
four digits will do.
-/

namespace LatestTag.Json

/-- The character that a short escape stands for. -/
def ofShortEscape? (letter : Char) : Option Char :=
  if letter = '"' then some '"'
  else if letter = '\\' then some '\\'
  else if letter = '/' then some '/'
  else if letter = 'b' then some '\x08'
  else if letter = 'f' then some '\x0C'
  else if letter = 'n' then some '\n'
  else if letter = 'r' then some '\r'
  else if letter = 't' then some '\t'
  else none

/-- The value of a hexadecimal digit. -/
def hexDigit? (c : Char) : Option Nat :=
  if c.isDigit then some (c.toNat - '0'.toNat)
  else if 'a' ≤ c ∧ c ≤ 'f' then some (c.toNat - 'a'.toNat + 10)
  else if 'A' ≤ c ∧ c ≤ 'F' then some (c.toNat - 'A'.toNat + 10)
  else none

/-- The value of four hexadecimal digits. -/
def hexQuad? (a b c d : Char) : Option Nat := do
  some ((← hexDigit? a) * 0x1000 + (← hexDigit? b) * 0x100 + (← hexDigit? c) * 0x10
    + (← hexDigit? d))

/-- What is wrong when four hexadecimal digits should stand ahead but do not. Only where fewer than
four bytes are left does the text count as ended. -/
def quadProblem (ahead : List Char) : Problem :=
  if (String.ofList ahead).utf8ByteSize < 4 then .ended else .malformed

/-- Whether the code unit is the first one of a pair. -/
def isHighSurrogate (unit : Nat) : Bool := 0xD800 ≤ unit && unit < 0xDC00

/-- Whether the code unit is the second one of a pair. -/
def isLowSurrogate (unit : Nat) : Bool := 0xDC00 ≤ unit && unit < 0xE000

/-- The character of a pair of code units. -/
def ofSurrogates (high low : Nat) : Char :=
  Char.ofNat (0x10000 + (high - 0xD800) * 0x400 + (low - 0xDC00))

/-- Adds a character to what is read behind it. -/
def consRead (c : Char) (read : Except Problem (List Char × List Char)) :
    Except Problem (List Char × List Char) :=
  read.map fun (chars, rest) => (c :: chars, rest)

/-- The rest of a string, of which the opening quote is read, and what stands behind it. -/
def readChars : List Char → Except Problem (List Char × List Char)
  | [] => .error .ended
  | '"' :: rest => .ok ([], rest)
  | '\\' :: [] => .error .ended
  | '\\' :: 'u' :: a :: b :: c :: d :: rest =>
    match hexQuad? a b c d with
    | none => .error (quadProblem (a :: b :: c :: d :: rest))
    | some unit =>
      if isLowSurrogate unit then .error .malformed
      else if isHighSurrogate unit then
        match rest with
        | [] | ['\\'] => .error .ended
        | '\\' :: 'u' :: a :: b :: c :: d :: rest =>
          match hexQuad? a b c d with
          | none => .error (quadProblem (a :: b :: c :: d :: rest))
          | some low =>
            if isLowSurrogate low then consRead (ofSurrogates unit low) (readChars rest)
            else .error .malformed
        | '\\' :: 'u' :: rest => .error (quadProblem rest)
        | _ => .error .malformed
      else consRead (Char.ofNat unit) (readChars rest)
  | '\\' :: 'u' :: rest => .error (quadProblem rest)
  | '\\' :: letter :: rest =>
    match ofShortEscape? letter with
    | some c => consRead c (readChars rest)
    | none => .error .malformed
  | c :: rest => if c.toNat < 0x20 then .error .malformed else consRead c (readChars rest)

/-- What stands behind the rest of a string, of which the opening quote is read. -/
def skipChars : List Char → Except Problem (List Char)
  | [] => .error .ended
  | '"' :: rest => .ok rest
  | '\\' :: [] => .error .ended
  | '\\' :: 'u' :: a :: b :: c :: d :: rest =>
    match hexQuad? a b c d with
    | none => .error (quadProblem (a :: b :: c :: d :: rest))
    | some _ => skipChars rest
  | '\\' :: 'u' :: rest => .error (quadProblem rest)
  | '\\' :: letter :: rest =>
    if (ofShortEscape? letter).isSome then skipChars rest else .error .malformed
  | c :: rest => if c.toNat < 0x20 then .error .malformed else skipChars rest

/-- The text of a string, of which the opening quote is next. -/
def Reader.quoted : Reader String := fun ahead =>
  (readChars (ahead.drop 1)).map fun (chars, rest) => (.ofList chars, rest)

end LatestTag.Json

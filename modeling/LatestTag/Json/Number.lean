import LatestTag.Json.Double
import LatestTag.Json.Reader

/-!
# JSON numbers

A number without fraction and exponent is an integer, kept exactly while it fits into 64 bits, with
a sign bit if it is negative; any other number is floating. Floating numbers are read as one natural
number of at most 64 bits and a power of ten: digits that would not fit are dropped, before the
point by raising the power. Where the value of a number does not matter it is only skipped.
-/

namespace LatestTag.Json

/-- A number, as it is read. -/
inductive Number where
  /-- A natural number of at most 64 bits. -/
  | natural (n : Nat)
  /-- The negative of a number up to `2 ^ 63`. -/
  | negative (n : Nat)
  /-- Any other number. -/
  | floating (isNegative : Bool) (magnitude : Double)
deriving DecidableEq, Repr

/-- The value of a decimal digit. -/
def digitValue (c : Char) : Nat := c.toNat - '0'.toNat

/-- Takes digits as long as the value has at most 64 bits, and leaves the others. -/
def absorb (value : Nat) : List Char → Nat × List Char
  | [] => (value, [])
  | d :: digits =>
    if value * 10 + digitValue d < UInt64.size then absorb (value * 10 + digitValue d) digits
    else (value, d :: digits)

/-- A floating number by its digits and its power of ten. -/
def floating (isNegative : Bool) (digits : Nat) (power : Int) : Except Problem Number :=
  match (Double.ofRatio? digits 1).bind (Double.scaleTen? 8 · power) with
  | some magnitude => .ok (.floating isNegative magnitude)
  | none => .error .malformed

/-- What is wrong where a digit should stand. -/
def digitProblem : List Char → Problem
  | [] => .ended
  | _ => .malformed

/-- The sign of an exponent, if it has one, and what stands behind it. -/
def readExponentSign : List Char → Bool × List Char
  | '-' :: rest => (true, rest)
  | '+' :: rest => (false, rest)
  | ahead => (false, ahead)

/-- A floating number from its exponent on, of which the letter is read. An exponent that does not
fit into 32 bits makes the number zero or too large. -/
def readExponent (isNegative : Bool) (digits : Nat) (power : Int) (ahead : List Char) :
    Except Problem (Number × List Char) :=
  let (isLow, ahead) := readExponentSign ahead
  let written := ahead.takeWhile Char.isDigit
  let rest := ahead.drop written.length
  if written.isEmpty then .error (digitProblem ahead)
  else
    let exponent := Nat.ofDigitChars 10 written 0
    if UInt32.size / 2 ≤ exponent then
      if digits = 0 ∨ isLow then .ok (.floating isNegative .zero, rest) else .error .malformed
    else do
      let power := if isLow then power - exponent else power + exponent
      .ok (← floating isNegative digits power, rest)

/-- A floating number behind the digits of its fraction. -/
def readFloating (isNegative : Bool) (digits : Nat) (power : Int) (ahead : List Char) :
    Except Problem (Number × List Char) :=
  match ahead with
  | 'e' :: rest | 'E' :: rest => readExponent isNegative digits power rest
  | ahead => do .ok (← floating isNegative digits power, ahead)

/-- A floating number from its fraction on, of which the point is read. -/
def readFraction (isNegative : Bool) (digits : Nat) (power : Int) (ahead : List Char) :
    Except Problem (Number × List Char) :=
  let written := ahead.takeWhile Char.isDigit
  if written.isEmpty then .error (digitProblem ahead)
  else
    let (digits, dropped) := absorb digits written
    let absorbed := written.length - dropped.length
    readFloating isNegative digits (power - absorbed) (ahead.drop written.length)

/-- A number from its first digit on. -/
def readNumber (isNegative : Bool) (ahead : List Char) : Except Problem (Number × List Char) :=
  let written := ahead.takeWhile Char.isDigit
  let rest := ahead.drop written.length
  match written with
  | [] => .error (digitProblem ahead)
  | '0' :: _ :: _ => .error .malformed
  | written =>
    let (digits, dropped) := absorb 0 written
    let power : Int := dropped.length
    match rest with
    | '.' :: rest => readFraction isNegative digits power rest
    | 'e' :: rest | 'E' :: rest => readExponent isNegative digits power rest
    | rest => do
      if !dropped.isEmpty then .ok (← floating isNegative digits power, rest)
      else if !isNegative then .ok (.natural digits, rest)
      else if 0 < digits ∧ digits ≤ UInt64.size / 2 then .ok (.negative digits, rest)
      else .ok (← floating true digits 0, rest)

/-- A number, of which a digit or a minus sign is next. -/
def Reader.number : Reader Number := fun ahead =>
  match ahead with
  | '-' :: rest => readNumber true rest
  | ahead => readNumber false ahead

/-- What stands behind digits of which there has to be one at least. -/
def skipDigits (ahead : List Char) : Except Problem (List Char) :=
  match ahead with
  | [] => .error .malformed
  | c :: rest => if c.isDigit then .ok (rest.dropWhile Char.isDigit) else .error .malformed

/-- What stands behind an exponent, if there is one. -/
def skipExponent : List Char → Except Problem (List Char)
  | 'e' :: rest | 'E' :: rest => skipDigits (readExponentSign rest).2
  | ahead => .ok ahead

/-- What stands behind a number from its first digit on. Here a number that breaks off is malformed
even at the end of the text. -/
def skipNumber (ahead : List Char) : Except Problem (List Char) := do
  let rest ← match ahead with
    | '0' :: rest =>
      match rest with
      | c :: _ => if c.isDigit then .error .malformed else .ok rest
      | [] => .ok rest
    | ahead => skipDigits ahead
  match rest with
  | '.' :: rest => skipExponent (← skipDigits rest)
  | rest => skipExponent rest

end LatestTag.Json

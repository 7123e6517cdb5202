import LatestTag.Json.Number
import LatestTag.Json.Text

/-!
# Skipping JSON values

A value that does not matter is skipped: it has to be JSON, but strings may pair surrogates wrongly
and numbers may be of any size. Values may nest to any depth, so the lists and objects that are open
are kept in a list, innermost first.
-/

namespace LatestTag.Json

/-- A list or an object that is open. -/
inductive Enclosing where
  /-- A list. -/
  | list
  /-- An object. -/
  | object
deriving DecidableEq, Repr

/-- The character that ends it. -/
def Enclosing.closing : Enclosing → Char
  | list => ']'
  | object => '\x7d'

/-- What comes next when a value is skipped. -/
inductive SkipTurn where
  /-- A value. -/
  | value
  /-- The first item of the innermost list or object, or its end. -/
  | first
  /-- What follows a value. -/
  | after
deriving DecidableEq, Repr

/-- What stands behind a value that is neither a list nor an object. -/
def skipScalar (first : Char) (rest : List Char) : Except Problem (List Char) :=
  if first = 'n' then (Reader.word ['u', 'l', 'l'] rest).map (·.2)
  else if first = 't' then (Reader.word ['r', 'u', 'e'] rest).map (·.2)
  else if first = 'f' then (Reader.word ['a', 'l', 's', 'e'] rest).map (·.2)
  else if first = '"' then skipChars rest
  else if first = '-' then skipNumber rest
  else if first.isDigit then skipNumber (first :: rest)
  else .error .malformed

/-- What stands behind the name of a member and its colon, or in a list what is ahead. -/
def skipName : Enclosing → List Char → Except Problem (List Char)
  | .list, ahead => .ok ahead
  | .object, ahead =>
    match skipSpace ahead with
    | [] => .error .ended
    | c :: rest =>
      if c = '"' then do
        match skipSpace (← skipChars rest) with
        | [] => .error .ended
        | ':' :: rest => .ok rest
        | _ => .error .malformed
      else .error .malformed

/-- What stands behind a value and the lists and objects around it. There are at most two turns for
each character, which bounds the fuel needed. -/
def skipTurns (fuel : Nat) (turn : SkipTurn) (outer : List Enclosing) (ahead : List Char) :
    Except Problem (List Char) :=
  match fuel with
  | 0 => .error .malformed
  | fuel + 1 =>
    match turn with
    | .value =>
      match skipSpace ahead with
      | [] => .error .ended
      | '[' :: rest => skipTurns fuel .first (.list :: outer) rest
      | '\x7b' :: rest => skipTurns fuel .first (.object :: outer) rest
      | c :: rest => do skipTurns fuel .after outer (← skipScalar c rest)
    | .first =>
      match outer, skipSpace ahead with
      | [], ahead => .ok ahead
      | _ :: _, [] => .error .ended
      | inner :: outer, c :: rest =>
        if c = inner.closing then skipTurns fuel .after outer rest
        else do skipTurns fuel .value (inner :: outer) (← skipName inner (c :: rest))
    | .after =>
      match outer with
      | [] => .ok ahead
      | inner :: outer =>
        match skipSpace ahead with
        | [] => .error .ended
        | c :: rest =>
          if c = ',' then do skipTurns fuel .value (inner :: outer) (← skipName inner rest)
          else if c = inner.closing then skipTurns fuel .after outer rest
          else .error .malformed

/-- Skips a value. -/
def Reader.skipValue : Reader Unit := fun ahead =>
  (skipTurns (2 * ahead.length + 2) .value [] ahead).map fun rest => ((), rest)

end LatestTag.Json

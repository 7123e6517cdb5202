/-!
# Writing JSON

JSON text is written without space, and each value in one way only: strings escape what they have
to and nothing else, objects list their members in a given order.
-/

namespace LatestTag.Json

/-- The short escape of a character that has one. -/
def shortEscape? (c : Char) : Option Char :=
  if c = '"' then some '"'
  else if c = '\\' then some '\\'
  else if c = '\x08' then some 'b'
  else if c = '\x0C' then some 'f'
  else if c = '\n' then some 'n'
  else if c = '\r' then some 'r'
  else if c = '\t' then some 't'
  else none

/-- A character as it stands in a string. -/
def writeChar (c : Char) : List Char :=
  match shortEscape? c with
  | some letter => ['\\', letter]
  | none =>
    if c.toNat < 0x20 then
      ['\\', 'u', '0', '0', Nat.digitChar (c.toNat / 16), Nat.digitChar (c.toNat % 16)]
    else [c]

/-- A string. -/
def writeString (s : String) : String := .ofList ('"' :: s.toList.flatMap writeChar ++ ['"'])

/-- A truth value. -/
def writeBool (b : Bool) : String := if b then "true" else "false"

/-- A natural number. -/
def writeNat (n : Nat) : String := n.repr

/-- A value, or `null` where there is none. -/
def writeOption {α : Type} (write : α → String) : Option α → String
  | some value => write value
  | none => "null"

/-- An object of the members, whose values are written already. -/
def writeObject (members : List (String × String)) : String :=
  "\x7b" ++ ",".intercalate (members.map fun (name, value) => writeString name ++ ":" ++ value)
    ++ "\x7d"

end LatestTag.Json

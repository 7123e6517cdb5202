import LatestTag.Unicode.V17

/-!
# Quoted text

Diagnostics show a text between double quotes, so that it cannot run into what follows. A quote and
a backslash get a backslash in front, the usual control characters their short escapes, and every
other character that cannot be seen, or would join the character before it, is written by its code
point.
-/

namespace LatestTag.Text

/-- The lower case hexadecimal digits of a number. -/
def hexDigits (n : Nat) : List Char := Nat.toDigits 16 n

/-- Whether the character is written by its code point: it cannot be seen, or it would be drawn onto
the quote or the character before it. -/
def needsCodePoint (c : Char) : Bool :=
  Unicode.V17.invisible.contains c || Unicode.V17.joiningMark.contains c

/-- A character as it stands between quotes. -/
def quoteChar (c : Char) : List Char :=
  if c = '"' then ['\\', '"']
  else if c = '\\' then ['\\', '\\']
  else if c = '\n' then ['\\', 'n']
  else if c = '\r' then ['\\', 'r']
  else if c = '\t' then ['\\', 't']
  else if c = '\x00' then ['\\', '0']
  else if needsCodePoint c then
    ['\\', 'u', '\x7b'] ++ hexDigits c.toNat ++ ['\x7d']
  else [c]

/-- The text between double quotes. -/
def quote (s : String) : String := .ofList ('"' :: s.toList.flatMap quoteChar ++ ['"'])

end LatestTag.Text

import LatestTag.Pattern.Reading
import LatestTag.Pattern.Tree
import LatestTag.Unicode.CharSet

/-!
# Escapes

A backslash starts an escape: a character that would mean something else on its own, a character by
its code point, a class with a letter or a name, or a condition on the position. The same escapes
are read inside and outside brackets; a condition makes no sense in brackets and is refused there.
-/

namespace LatestTag.Pattern

/-- The smallest parts of a pattern. -/
inductive Atom where
  /-- A character. -/
  | literal (literal : Literal)
  /-- A condition on the position. -/
  | assertion (assertion : Assertion)
  /-- A class by name, or its complement. -/
  | named (negated : Bool) (cls : NamedClass)
deriving DecidableEq, Repr

namespace Atom

/-- The atom as a pattern. -/
def tree : Atom → Tree
  | literal l => .literal l
  | assertion a => .assertion a
  | named negated cls => .named negated cls

/-- The atom as a part of a class in brackets. -/
def classTree? : Atom → Option ClassTree
  | literal l => some (.literal l)
  | assertion _ => none
  | named negated cls => some (.named negated cls)

/-- The character of an atom that is one. -/
def literal? : Atom → Option Literal
  | literal l => some l
  | _ => none

end Atom

/-- A character that stands for itself. -/
def Literal.plain (c : Char) : Literal := ⟨c, false⟩

/-- Whether the character is a hexadecimal digit. -/
def isHexDigit (c : Char) : Bool :=
  c.isDigit || ('a' ≤ c && c ≤ 'f') || ('A' ≤ c && c ≤ 'F')

/-- The character with the code point that the hexadecimal digits name. -/
def charOfHex? (digits : List Char) : Option Char :=
  let code := Unicode.CharSet.hexValue digits
  if !digits.isEmpty && digits.all isHexDigit && code.isValidChar then some (Char.ofNat code)
  else none

/-- That many characters and those behind them, with space skipped behind each. -/
def readCount (verbose : Bool) : Nat → List Char → Option (List Char × List Char)
  | 0, ahead => some ([], ahead)
  | _ + 1, [] => none
  | count + 1, c :: rest => do
    let (chars, rest) ← readCount verbose count (skipSpace verbose rest)
    some (c :: chars, rest)

/-- A character by its code point: in braces, or as a fixed number of digits. -/
def readCodePoint (verbose : Bool) (digits : Nat) (ahead : List Char) :
    Option (Atom × List Char) :=
  match skipSpace verbose ahead with
  | '\x7b' :: rest => do
    let (hex, rest) ← readBraced verbose rest
    some (.literal ⟨← charOfHex? hex, false⟩, skipSpace verbose rest)
  | ahead => do
    let (hex, rest) ← readCount verbose digits ahead
    some (.literal ⟨← charOfHex? hex, digits == 2⟩, rest)

/-- The text before and behind the first occurrence of a word. -/
def cutAtWord? (word : String) : List Char → Option (List Char × List Char)
  | [] => none
  | c :: rest =>
    match afterWord? word (c :: rest) with
    | some after => some ([], after)
    | none => (cutAtWord? word rest).map fun (before, after) => (c :: before, after)

/-- The class that a name in braces asks for, and whether it asks for the complement. The signs `:`
and `=` set a value off from its property; so does `!=`, for all characters with another value. -/
def classOfName (name : List Char) : Bool × NamedClass :=
  match cutAtWord? "!=" name with
  | some (property, value) => (true, .propertyValue property value)
  | none =>
    match cutAtWord? ":" name <|> cutAtWord? "=" name with
    | some (property, value) => (false, .propertyValue property value)
    | none => (false, .property name)

/-- A class by the name of a property, a category or a script: one letter, or a name in braces. -/
def readProperty (verbose negated : Bool) (ahead : List Char) : Option (Atom × List Char) :=
  match skipSpace verbose ahead with
  | [] | '\\' :: _ => none
  | '\x7b' :: rest => do
    let (name, rest) ← readBraced verbose rest
    let (unequal, cls) := classOfName name
    some (.named (negated != unequal) cls, rest)
  | c :: rest => some (.named negated (.property [c]), skipSpace verbose rest)

/-- The kind of word boundary with that name. -/
def wordEdgeOfName? (name : List Char) : Option WordEdge :=
  match String.ofList name with
  | "start" => some .start
  | "end" => some .stop
  | "start-half" => some .startHalf
  | "end-half" => some .stopHalf
  | _ => none

/-- A word boundary, of the kind that a name in braces asks for. Braces that do not begin like a
name are left for a repetition. -/
def readWordBoundary (verbose : Bool) : List Char → Option (Atom × List Char)
  | '\x7b' :: rest =>
    match skipSpace verbose rest with
    | [] => none
    | c :: _ =>
      if c.isAlpha || c = '-' then do
        let (name, rest) ← readBraced verbose rest
        some (.assertion (.word (← wordEdgeOfName? name)), rest)
      else some (.assertion (.word .boundary), '\x7b' :: rest)
  | ahead => some (.assertion (.word .boundary), ahead)

/-- Whether the character may be escaped to stand for itself: any in ASCII that is neither a letter
nor a digit nor an angle bracket. -/
def isEscapable (c : Char) : Bool :=
  c.toNat < 0x80 && !c.isAlphanum && c ≠ '<' && c ≠ '>'

/-- What is written behind a backslash. -/
def readEscape (verbose : Bool) : List Char → Option (Atom × List Char)
  | [] => none
  | 'x' :: rest => readCodePoint verbose 2 rest
  | 'u' :: rest => readCodePoint verbose 4 rest
  | 'U' :: rest => readCodePoint verbose 8 rest
  | 'p' :: rest => readProperty verbose false rest
  | 'P' :: rest => readProperty verbose true rest
  | 'b' :: rest => readWordBoundary verbose rest
  | c :: rest => do some (← atom? c, rest)
where
  /-- The escapes with one letter. -/
  atom? (c : Char) : Option Atom :=
    match c with
    | 'd' => some (.named false (.shorthand .digit))
    | 's' => some (.named false (.shorthand .space))
    | 'w' => some (.named false (.shorthand .word))
    | 'D' => some (.named true (.shorthand .digit))
    | 'S' => some (.named true (.shorthand .space))
    | 'W' => some (.named true (.shorthand .word))
    | 'a' => some (.literal (.plain '\x07'))
    | 'f' => some (.literal (.plain '\x0C'))
    | 't' => some (.literal (.plain '\t'))
    | 'n' => some (.literal (.plain '\n'))
    | 'r' => some (.literal (.plain '\r'))
    | 'v' => some (.literal (.plain '\x0B'))
    | 'A' => some (.assertion .textStart)
    | 'z' => some (.assertion .textEnd)
    | 'B' => some (.assertion (.word .noBoundary))
    | '<' => some (.assertion (.word .start))
    | '>' => some (.assertion (.word .stop))
    | c => if isEscapable c then some (.literal (.plain c)) else none

end LatestTag.Pattern

import LatestTag.Text.Cut

/-!
# Versions

A version has three numbers and may have pre-release and build identifiers, as semantic versioning
lays down. `Version.strict?` reads exactly that. Tags are written with more freedom: a `v` in front,
zeros before a number, fewer than three numbers. `Version.lenient?` brings such a text into the
strict form and reads that, and `Version.ofTag?` takes what either of them reads.

Precedence goes by the numbers, then by the pre-release: none is the highest, and otherwise
identifiers are compared one by one. Build identifiers do not count.
-/

namespace LatestTag

open Text (cutFirst?)

/-- A dot-separated part of a pre-release or of build metadata. -/
abbrev Identifier := List Char

/-- A version. -/
structure Version where
  /-- The first number. -/
  major : UInt64
  /-- The second number. -/
  minor : UInt64
  /-- The third number. -/
  patch : UInt64
  /-- The identifiers of the pre-release; a release has none. -/
  pre : List Identifier
  /-- The identifiers of the build metadata. -/
  build : List Identifier
deriving DecidableEq, Repr

namespace Identifier

/-- Whether the identifier is a number. -/
def isNumeric (id : Identifier) : Bool := id.all Char.isDigit

/-- Whether the text is an identifier: letters, digits and dashes of ASCII, one at least. -/
def isValid (id : Identifier) : Bool := !id.isEmpty && id.all fun c => c.isAlphanum || c == '-'

/-- Whether the number has a zero in front that it does not need. -/
def hasLeadingZero (digits : List Char) : Bool := digits.head? == some '0' && 1 < digits.length

/-- Whether the text may stand in a pre-release, where numbers have no zeros in front. -/
def isValidPre (id : Identifier) : Bool := id.isValid && !(id.isNumeric && hasLeadingZero id)

/-- The order of identifiers: numbers come first and by value, which their lengths decide before
their digits do; others go by their characters. -/
def compare (a b : Identifier) : Ordering :=
  match a.isNumeric, b.isNumeric with
  | true, true => (Ord.compare a.length b.length).then (List.compareLex Ord.compare a b)
  | true, false => .lt
  | false, true => .gt
  | false, false => List.compareLex Ord.compare a b

end Identifier

namespace Version

/-- The value of digits that fit into 64 bits. -/
def number? (digits : List Char) : Option UInt64 :=
  let value := Nat.ofDigitChars 10 digits 0
  if !digits.isEmpty && digits.all Char.isDigit && value < UInt64.size then
    some (UInt64.ofNat value)
  else none

/-- The value of a number without unneeded zeros in front. -/
def strictNumber? (digits : List Char) : Option UInt64 :=
  if Identifier.hasLeadingZero digits then none else number? digits

/-- The identifiers of build metadata. -/
def build? (text : List Char) : Option (List Identifier) :=
  let ids := text.splitOn '.'
  if ids.all Identifier.isValid then some ids else none

/-- The identifiers of a pre-release. -/
def pre? (text : List Char) : Option (List Identifier) :=
  let ids := text.splitOn '.'
  if ids.all Identifier.isValidPre then some ids else none

/-- The pre-release and the build metadata that follow the numbers, each with its sign. -/
def suffix? : List Char → Option (List Identifier × List Identifier)
  | [] => some ([], [])
  | '+' :: build => do some ([], ← build? build)
  | '-' :: text =>
    match cutFirst? '+' text with
    | some (pre, build) => do some (← pre? pre, ← build? build)
    | none => do some (← pre? text, [])
  | _ => none

/-- Whether the character ends the numbers. -/
def endsCore (c : Char) : Bool := c == '-' || c == '+'

/-- The numbers of a version text. -/
def core (text : List Char) : List Char := text.takeWhile (!endsCore ·)

/-- What follows the numbers of a version text. -/
def suffix (text : List Char) : List Char := text.dropWhile (!endsCore ·)

/-- The version that a text is by the rules of semantic versioning. -/
def strict? (text : List Char) : Option Version :=
  match (core text).splitOn '.' with
  | [major, minor, patch] => do
    let major ← strictNumber? major
    let minor ← strictNumber? minor
    let patch ← strictNumber? patch
    let (pre, build) ← suffix? (suffix text)
    some { major, minor, patch, pre, build }
  | _ => none

/-- A number without zeros in front. -/
def trimZeros (digits : List Char) : List Char :=
  match digits.dropWhile (· == '0') with
  | [] => ['0']
  | digits => digits

/-- The text in strict form: no zeros in front of numbers, and zeros for numbers that are missing.
There is none unless the text begins with up to three numbers. -/
def normal? (text : List Char) : Option (List Char) :=
  let parts := (core text).splitOn '.'
  if parts.all (fun part => !part.isEmpty && part.all Char.isDigit) && parts.length ≤ 3 then
    let numbers := parts.map trimZeros ++ List.replicate (3 - parts.length) ['0']
    some (['.'].intercalate numbers ++ suffix text)
  else none

/-- The version that a text is once it is in strict form. -/
def lenient? (text : List Char) : Option Version := (normal? text).bind strict?

/-- The version that a tag stands for, with or without a `v` in front. -/
def ofTag? (tag : String) : Option Version :=
  let text := match tag.toList with
    | 'v' :: text => text
    | text => text
  strict? text <|> lenient? text

/-- Whether the version is a pre-release. -/
def isPre (version : Version) : Bool := !version.pre.isEmpty

/-- The order of pre-releases: none is the highest. -/
def comparePre (a b : List Identifier) : Ordering :=
  match a, b with
  | [], [] => .eq
  | [], _ => .gt
  | _, [] => .lt
  | a, b => List.compareLex Identifier.compare a b

/-- The order of versions by precedence. -/
def compare (a b : Version) : Ordering :=
  (Ord.compare a.major b.major).then <| (Ord.compare a.minor b.minor).then <|
    (Ord.compare a.patch b.patch).then <| comparePre a.pre b.pre

end Version

end LatestTag

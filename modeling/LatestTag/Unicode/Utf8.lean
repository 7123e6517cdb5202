import LatestTag.Unicode.CharSet

/-!
# Character sets as byte sequences

In UTF-8 a character set is a set of byte strings, and a few sequences of byte ranges describe it: a
range of characters is cut until its members have encodings of one length that vary freely in each
byte. An automaton over bytes that recognises the set follows these sequences.
-/

namespace LatestTag.Unicode

/-- An inclusive range of bytes. -/
structure ByteRange where
  /-- The first byte. -/
  lo : Nat
  /-- The last byte. -/
  hi : Nat
deriving DecidableEq, Repr

/-- The encodings of some characters: the ranges of their bytes, in order. -/
abbrev ByteRanges := List ByteRange

namespace Utf8

/-- The UTF-8 encoding of a code point. -/
def encode (code : Nat) : List Nat :=
  if code < 0x80 then [code]
  else if code < 0x800 then [0xC0 + code / 0x40, 0x80 + code % 0x40]
  else if code < 0x10000 then
    [0xE0 + code / 0x1000, 0x80 + code / 0x40 % 0x40, 0x80 + code % 0x40]
  else
    [0xF0 + code / 0x40000, 0x80 + code / 0x1000 % 0x40, 0x80 + code / 0x40 % 0x40,
      0x80 + code % 0x40]

/-- Cuts a range behind a code point, if that lies within it. -/
def cutBehind? (r : CodeRange) (last : Nat) : Option (CodeRange × CodeRange) :=
  if r.lo ≤ last && last < r.hi then some (⟨r.lo, last⟩, ⟨last + 1, r.hi⟩) else none

/-- Cuts a range at a block of `size` code points that it covers only in part, if it reaches over
more than one block. -/
def cutAtBlock? (r : CodeRange) (size : Nat) : Option (CodeRange × CodeRange) :=
  if r.lo / size = r.hi / size then none
  else if r.lo % size ≠ 0 then cutBehind? r (r.lo / size * size + (size - 1))
  else if r.hi % size ≠ size - 1 then cutBehind? r (r.hi / size * size - 1)
  else none

/-- Cuts a range whose encodings differ in length or do not vary freely in each byte. -/
def cut? (r : CodeRange) : Option (CodeRange × CodeRange) :=
  cutBehind? r 0x7F <|> cutBehind? r 0x7FF <|> cutBehind? r 0xFFFF <|>
    if r.hi < 0x80 then none
    else cutAtBlock? r 0x40 <|> cutAtBlock? r 0x1000 <|> cutAtBlock? r 0x40000

/-- The parts into which a range is cut. There are fewer than 32 cuts one within the other. -/
def pieces (fuel : Nat) (r : CodeRange) : List CodeRange :=
  match fuel, cut? r with
  | fuel + 1, some (low, high) => pieces fuel low ++ pieces fuel high
  | _, _ => [r]

/-- The byte sequences of a character set, in ascending order. -/
def sequences (set : CharSet) : List ByteRanges :=
  (set.ranges.flatMap (pieces 32)).map fun r =>
    List.zipWith ByteRange.mk (encode r.lo) (encode r.hi)

/-- The sequences by their first range, each with the rests that follow it. -/
def byHead : List ByteRanges → List (ByteRange × List ByteRanges)
  | [] => []
  | [] :: rest => byHead rest
  | (head :: tail) :: rest =>
    match byHead rest with
    | (other, tails) :: groups =>
      if other = head then (head, tail :: tails) :: groups
      else (head, [tail]) :: (other, tails) :: groups
    | [] => [(head, [tail])]

end Utf8

end LatestTag.Unicode

/-!
# Sets of characters

A `CharSet` is a set of Unicode scalar values, kept as inclusive ranges of code points in ascending
order with a gap between any two. The operations of set algebra go through `ofRanges`, which brings
any list of ranges into that form; `compl` is taken within the scalar values, so a surrogate code
point belongs to no complement.
-/

namespace LatestTag.Unicode

/-- An inclusive range of code points. -/
structure CodeRange where
  /-- The first code point. -/
  lo : Nat
  /-- The last code point. -/
  hi : Nat
deriving DecidableEq, Repr

/-- A set of characters, as ascending ranges of code points that neither meet nor overlap. -/
structure CharSet where
  /-- The ranges. -/
  ranges : List CodeRange
deriving DecidableEq, Repr

namespace CharSet

/-- Adds a range in front of ranges that start no earlier, joining those that it meets. -/
def joinFront (r : CodeRange) : List CodeRange → List CodeRange
  | [] => [r]
  | s :: rest => if s.lo ≤ r.hi + 1 then joinFront ⟨r.lo, max r.hi s.hi⟩ rest else r :: s :: rest

/-- The set of all code points in the ranges, which may come in any order and overlap. -/
def ofRanges (ranges : List CodeRange) : CharSet :=
  ⟨((ranges.filter fun r => r.lo ≤ r.hi).mergeSort fun r s => r.lo ≤ s.lo).foldr joinFront []⟩

/-- The set without members. -/
def empty : CharSet := ⟨[]⟩

/-- The scalar values from `lo` to `hi`. -/
def range (lo hi : Nat) : CharSet := ofRanges [⟨lo, min hi 0xD7FF⟩, ⟨max lo 0xE000, hi⟩]

/-- The set with one member. -/
def singleton (c : Char) : CharSet := ⟨[⟨c.toNat, c.toNat⟩]⟩

/-- All scalar values. -/
def univ : CharSet := ⟨[⟨0, 0xD7FF⟩, ⟨0xE000, 0x10FFFF⟩]⟩

/-- The ASCII characters. -/
def ascii : CharSet := ⟨[⟨0, 0x7F⟩]⟩

/-- Whether the code point is a member. The ranges ascend, so the search stops at the first range
that starts behind it. -/
def containsCode (set : CharSet) (code : Nat) : Bool :=
  go set.ranges
where
  /-- Searches ascending ranges. -/
  go : List CodeRange → Bool
    | [] => false
    | r :: rest => r.lo ≤ code && (code ≤ r.hi || go rest)

/-- Whether the character is a member. -/
def contains (set : CharSet) (c : Char) : Bool := set.containsCode c.toNat

/-- The members of either set. -/
def union (s t : CharSet) : CharSet := ofRanges (s.ranges ++ t.ranges)

/-- The members of any of the sets. -/
def unionAll (sets : List CharSet) : CharSet := ofRanges (sets.flatMap (·.ranges))

/-- The code points up to `top` that lie in none of the ascending ranges, from `start` on. -/
def gaps (start top : Nat) : List CodeRange → List CodeRange
  | [] => if start ≤ top then [⟨start, top⟩] else []
  | r :: rest =>
    if start < r.lo then ⟨start, min top (r.lo - 1)⟩ :: gaps (r.hi + 1) top rest
    else gaps (r.hi + 1) top rest

/-- The scalar values outside the set. -/
def compl (set : CharSet) : CharSet :=
  ⟨gaps 0 0x10FFFF (set.union ⟨[⟨0xD800, 0xDFFF⟩]⟩).ranges⟩

/-- The members of both sets. -/
def inter (s t : CharSet) : CharSet := (s.compl.union t.compl).compl

/-- The members of the first set that are not in the second. -/
def diff (s t : CharSet) : CharSet := s.inter t.compl

/-- The members of exactly one of the sets. -/
def symmDiff (s t : CharSet) : CharSet := (s.diff t).union (t.diff s)

/-- Whether all members are ASCII characters. -/
def isAscii (set : CharSet) : Bool := set.ranges.all fun r => r.hi ≤ 0x7F

/-- The value of a hexadecimal digit, or zero for any other character. -/
def hexDigit (c : Char) : Nat :=
  if c.isDigit then c.toNat - '0'.toNat else c.toUpper.toNat - 'A'.toNat + 10

/-- The value of a hexadecimal numeral. -/
def hexValue (digits : List Char) : Nat := digits.foldl (fun n c => 16 * n + hexDigit c) 0

/-- Reads ranges written as hexadecimal code points between spaces, `41-5A` for a range and `AA` for
one code point, on any number of lines. -/
def ofHex (lines : List String) : CharSet :=
  ofRanges <| (lines.flatMap fun line => line.toList.splitOn ' ').filterMap fun word =>
    match word.splitOn '-' with
    | [code] => some ⟨hexValue code, hexValue code⟩
    | lo :: hi :: _ => some ⟨hexValue lo, hexValue hi⟩
    | [] => none

end CharSet

end LatestTag.Unicode

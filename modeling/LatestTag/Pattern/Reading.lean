import LatestTag.Text.Space

/-!
# Reading a pattern by characters

A parser of some part of a pattern takes the characters ahead and gives what it read together with
the characters behind it, or `none` if they are no such part. In verbose patterns white space and
comments between the characters are skipped; whether a pattern is verbose at some point is handed to
the parsers as a flag.
-/

namespace LatestTag.Pattern

open Text (isSpace)

/-- The characters behind the end of a comment. -/
def skipComment : List Char → List Char
  | [] => []
  | c :: rest => if c = '\n' then rest else skipComment rest

theorem length_skipComment_le (ahead : List Char) : (skipComment ahead).length ≤ ahead.length := by
  induction ahead with
  | nil => simp [skipComment]
  | cons c rest ih =>
    simp only [skipComment]
    split
    · simp
    · simpa using Nat.le_succ_of_le ih

/-- The characters behind white space and comments, which count only in a verbose pattern. -/
def skipSpace (verbose : Bool) (ahead : List Char) : List Char :=
  if verbose then skip ahead else ahead
where
  /-- Skips in a verbose pattern. -/
  skip : List Char → List Char
    | [] => []
    | c :: rest =>
      if isSpace c then skip rest
      else if c = '#' then skip (skipComment rest)
      else c :: rest
  termination_by ahead => ahead.length
  decreasing_by
    · simp
    · have := length_skipComment_le rest
      simp
      omega

theorem length_skip_le (ahead : List Char) : (skipSpace.skip ahead).length ≤ ahead.length := by
  fun_induction skipSpace.skip ahead with
  | case1 => simp
  | case2 c rest _ ih => simp; omega
  | case3 rest _ ih => have := length_skipComment_le rest; simp; omega
  | case4 => simp

theorem length_skipSpace_le (verbose : Bool) (ahead : List Char) :
    (skipSpace verbose ahead).length ≤ ahead.length := by
  unfold skipSpace
  split
  · exact length_skip_le ahead
  · simp

/-- What stands behind the word, if the characters ahead start with it. -/
def afterWord? (word : String) (ahead : List Char) : Option (List Char) :=
  if word.toList.isPrefixOf ahead then some (ahead.drop word.length) else none

/-- The characters up to the closing brace, without space between them, and the characters behind
the brace. -/
def readBraced (verbose : Bool) (ahead : List Char) : Option (List Char × List Char) :=
  match _h : skipSpace verbose ahead with
  | [] => none
  | '\x7d' :: rest => some ([], rest)
  | c :: rest => do
    let (chars, rest) ← readBraced verbose rest
    some (c :: chars, rest)
termination_by ahead.length
decreasing_by
  have := length_skipSpace_le verbose ahead
  rw [_h] at this
  simp at this
  omega

end LatestTag.Pattern

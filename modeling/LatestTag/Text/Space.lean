import LatestTag.Unicode.Property

/-!
# White space

White space is what Unicode counts as such. Both patterns and timestamps skip it in places.
-/

namespace LatestTag.Text

/-- Whether the character is white space. -/
def isSpace (c : Char) : Bool := Unicode.Property.whiteSpace.contains c

/-- The text without the white space at its start. -/
def trimStart (text : List Char) : List Char := text.dropWhile isSpace

end LatestTag.Text

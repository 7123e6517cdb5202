import LatestTag.Pattern.Expr

/-!
# Matching

An expression takes a set of positions of a text to the set of positions that a match from one of
them can end at. Positions lie between characters; a set of them is a list of marks, one a position.
The text matches when some position can be reached from any other, since a match may begin and end
anywhere. A repetition need not be followed more often than there are positions: a match that moves
on each time runs out of text by then, and one that stays at its position can do so any number of
times.
-/

namespace LatestTag.Pattern

/-- A position: the characters before and after it, at the ends of the text none. -/
structure Gap where
  /-- The character before. -/
  before : Option Char
  /-- The character after. -/
  after : Option Char
deriving DecidableEq, Repr

/-- The positions of a text. -/
def gaps (text : List Char) : List Gap :=
  List.zipWith Gap.mk (none :: text.map some) (text.map some ++ [none])

/-- Whether the character belongs to words. -/
def isWordChar (unicode : Bool) (c : Char) : Bool :=
  if unicode then Unicode.Property.word.contains c else (Mode.bracketSet .word).contains c

namespace Look

/-- Whether the condition holds at a position. -/
def holds (look : Look) (gap : Gap) : Bool :=
  match look with
  | textStart => gap.before.isNone
  | textEnd => gap.after.isNone
  | lineStart crlf =>
    gap.before.isNone || gap.before == some '\n'
      || (crlf && gap.before == some '\r' && gap.after != some '\n')
  | lineEnd crlf =>
    gap.after.isNone || (crlf && gap.after == some '\r')
      || (gap.after == some '\n' && !(crlf && gap.before == some '\r'))
  | word edge unicode =>
    let before := gap.before.any (isWordChar unicode)
    let after := gap.after.any (isWordChar unicode)
    match edge with
    | .boundary => before != after
    | .noBoundary => before == after
    | .start => !before && after
    | .stop => before && !after
    | .startHalf => !before
    | .stopHalf => !after

end Look

/-- A set of positions: a mark for each, in order. -/
abbrev Marks := List Bool

/-- The positions in either set. -/
def Marks.union (s t : Marks) : Marks := List.zipWith (· || ·) s t

/-- The positions in the first set that are not in the second. -/
def Marks.diff (s t : Marks) : Marks := List.zipWith (fun a b => a && !b) s t

/-- The positions before the last of that many steps, and after it. At first `previous` are the
positions that led to `marks`. Where a step changes nothing, the ones after it do not either. -/
def stepTimes (step : Marks → Marks) : Nat → Marks → Marks → Marks × Marks
  | 0, previous, marks => (previous, marks)
  | count + 1, _, marks =>
    let next := step marks
    if next = marks then (marks, marks) else stepTimes step count marks next

/-- The positions after at most that many steps, beside those that have been reached. Only the
positions of the `front` have not been left yet. -/
def stepUpTo (step : Marks → Marks) : Nat → Marks → Marks → Marks
  | 0, reached, _ => reached
  | count + 1, reached, front =>
    if front.any id then
      let next := (step front).diff reached
      stepUpTo step count (reached.union next) next
    else reached

namespace Expr

mutual

/-- The positions at which a match from one of the marked positions can end. -/
def reach (text : List Char) : Expr → Marks → Marks
  | empty, marks => marks
  | chars set, marks =>
    false :: List.zipWith (fun c mark => mark && set.contains c) text marks
  | look condition, marks =>
    List.zipWith (fun gap mark => mark && condition.holds gap) (gaps text) marks
  | group body, marks => reach text body marks
  | concat parts, marks => reachAll text parts marks
  | either branches, marks => reachAny text branches marks
  | repetition _ body min max, marks =>
    let rounds := text.length + 1
    let extra := match max with
      | some max => Nat.min (max - min) rounds
      | none => rounds
    let (previous, marks) :=
      stepTimes (reach text body) (Nat.min min rounds) (marks.map fun _ => false) marks
    stepUpTo (reach text body) extra marks (marks.diff previous)

/-- The positions at which matches one after another can end. -/
def reachAll (text : List Char) : List Expr → Marks → Marks
  | [], marks => marks
  | part :: parts, marks => reachAll text parts (reach text part marks)

/-- The positions at which a match of one of these can end. -/
def reachAny (text : List Char) : List Expr → Marks → Marks
  | [], marks => marks.map fun _ => false
  | branch :: branches, marks =>
    Marks.union (reach text branch marks) (reachAny text branches marks)

end

/-- Whether some part of the text matches. -/
def isMatch (expr : Expr) (text : String) : Bool :=
  let chars := text.toList
  (expr.reach chars (List.replicate (chars.length + 1) true)).any id

end Expr

end LatestTag.Pattern

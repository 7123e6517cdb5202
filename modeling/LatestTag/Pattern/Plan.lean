import LatestTag.Pattern.Expr

/-!
# Tidied expressions

A `Plan` is an expression as its automaton will be laid out: characters that follow one another are
texts, sequences and choices do not nest in their like, a choice among characters is a set, and what
all branches of a choice begin with stands before it. `Plan.ofExpr` tidies an expression from the
inside out; each of its steps keeps what matches. The file also says what the layout needs to know
of a plan: how short a match can be, and whether a match is tied to an end of the text.
-/

namespace LatestTag.Pattern

open Unicode (CharSet)

/-- The direction in which an automaton reads the text. -/
inductive Direction where
  /-- From the start. -/
  | forward
  /-- From the end. -/
  | backward
deriving DecidableEq, Repr

/-- A tidied expression. -/
inductive Plan where
  /-- Matches this text, which may be empty. -/
  | text (chars : List Char)
  /-- Matches one character of the set, which does not have exactly one member. -/
  | set (set : CharSet)
  /-- Matches the empty text at certain positions. -/
  | look (look : Look)
  /-- Matches as its part does, which is a group. -/
  | group (body : Plan)
  /-- Matches the parts one after another. -/
  | sequence (parts : List Plan)
  /-- Matches as any of the branches does. -/
  | choice (branches : List Plan)
  /-- Matches the part repeatedly, at least `min` times and at most `max` times if that is given. -/
  | repetition (lazy : Bool) (body : Plan) (min : Nat) (max : Option Nat)

namespace Plan

mutual

/-- Whether the two plans are alike. Every group is one of its own, so a plan with a group is like
no other. -/
def same : Plan → Plan → Bool
  | text chars, text chars' => chars == chars'
  | set s, set s' => s == s'
  | look condition, look condition' => condition == condition'
  | sequence parts, sequence parts' => sameAll parts parts'
  | choice branches, choice branches' => sameAll branches branches'
  | repetition lazy body min max, repetition lazy' body' min' max' =>
    lazy == lazy' && min == min' && max == max' && same body body'
  | _, _ => false

/-- Whether the plans are alike one by one. -/
def sameAll : List Plan → List Plan → Bool
  | [], [] => true
  | plan :: plans, plan' :: plans' => same plan plan' && sameAll plans plans'
  | _, _ => false

end

mutual

/-- Whether nothing but the empty text can match. -/
def isWidthless : Plan → Bool
  | text chars => chars.isEmpty
  | set _ => false
  | look _ => true
  | group body => body.isWidthless
  | sequence parts => allWidthless parts
  | choice branches => allWidthless branches
  | repetition _ body _ _ => body.isWidthless

/-- Whether nothing but the empty text can match any of these. -/
def allWidthless : List Plan → Bool
  | [] => true
  | plan :: plans => plan.isWidthless && allWidthless plans

end

mutual

/-- A number of characters that a match has at least, if a match is possible throughout. -/
def minLength? : Plan → Option Nat
  | text chars => some chars.length
  | set s => if s.ranges.isEmpty then none else some 1
  | look _ => some 0
  | group body => body.minLength?
  | sequence parts => do some (← minLengths? parts).sum
  | choice branches => do (← minLengths? branches).min?
  | repetition _ body min _ => do some (min * (← body.minLength?))

/-- The least lengths of these. -/
def minLengths? : List Plan → Option (List Nat)
  | [] => some []
  | plan :: plans => do some ((← plan.minLength?) :: (← minLengths? plans))

end

mutual

/-- Whether a match is tied to the end of the text that an automaton with this direction starts
from. -/
def isAnchored (direction : Direction) : Plan → Bool
  | text _ | set _ => false
  | look condition => condition == match direction with
    | .forward => .textStart
    | .backward => .textEnd
  | group body => body.isAnchored direction
  | sequence parts => anyAnchored direction parts
  | choice branches => allAnchored direction branches
  | repetition _ body min _ => min != 0 && body.isAnchored direction

/-- Whether a match of these one after another is tied: by one of those that the automaton reads up
to the first one with a width. -/
def anyAnchored (direction : Direction) : List Plan → Bool
  | [] => false
  | part :: parts =>
    match direction with
    | .forward => part.isAnchored direction || (part.isWidthless && anyAnchored direction parts)
    | .backward => anyAnchored direction parts || (allWidthless parts && part.isAnchored direction)

/-- Whether a match of any of these is tied. -/
def allAnchored (direction : Direction) : List Plan → Bool
  | [] => true
  | branch :: branches => branch.isAnchored direction && allAnchored direction branches

end

mutual

/-- The number of parts within parts. -/
def weight : Plan → Nat
  | text _ | set _ | look _ => 1
  | group body => body.weight + 1
  | sequence parts => weightAll parts + 1
  | choice branches => weightAll branches + 1
  | repetition _ body _ _ => body.weight + 1

/-- The number of parts in all of these. -/
def weightAll : List Plan → Nat
  | [] => 0
  | plan :: plans => plan.weight + weightAll plans

end

/-- The plan of a set: a text, if there is just one member. -/
def ofSet (s : CharSet) : Plan :=
  match s.ranges with
  | [⟨lo, hi⟩] => if lo = hi then text [Char.ofNat lo] else set s
  | _ => set s

/-- The parts of a plan that stands in a sequence. -/
def parts : Plan → List Plan
  | text [] => []
  | sequence parts => parts
  | plan => [plan]

/-- Puts a part before others, joining texts that meet. -/
def joinText : Plan → List Plan → List Plan
  | text chars, text more :: plans => text (chars ++ more) :: plans
  | plan, plans => plan :: plans

/-- The plan of parts one after another. -/
def ofParts (plans : List Plan) : Plan :=
  match (plans.flatMap parts).foldr joinText [] with
  | [] => text []
  | [part] => part
  | parts => sequence parts

/-- The branches of a plan that stands in a choice. -/
def branches : Plan → List Plan
  | choice branches => branches
  | plan => [plan]

/-- The members of a plan that is a set. -/
def set? : Plan → Option CharSet
  | set s => some s
  | _ => none

/-- The character of a text that has one. -/
def char? : Plan → Option Char
  | text [c] => some c
  | _ => none

/-- What both lists begin with. -/
def sharedFront : List Plan → List Plan → List Plan
  | plan :: plans, plan' :: plans' =>
    if same plan plan' then plan :: sharedFront plans plans' else []
  | _, _ => []

/-- The parts of a sequence. -/
def sequence? : Plan → Option (List Plan)
  | sequence parts => some parts
  | _ => none

/-- What all the plans begin with, and what remains of each, if they are sequences that begin
alike. -/
def splitFront? (plans : List Plan) : Option (List Plan × List Plan) := do
  let first :: rest ← plans.mapM sequence? | none
  let front := rest.foldl sharedFront first
  if front.isEmpty then none
  else some (front, (first :: rest).map fun parts => ofParts (parts.drop front.length))

/-- The plan of a choice. What is lifted out of the branches makes them lighter, so their weight
bounds how often that can happen. -/
def ofBranches (plans : List Plan) : Plan :=
  go (weightAll plans) plans
where
  /-- Tidies a choice, lifting what its branches begin with at most so many times. -/
  go (fuel : Nat) (plans : List Plan) : Plan :=
    match plans.flatMap branches with
    | [] => set .empty
    | [branch] => branch
    | plans =>
      match plans.mapM char?, plans.mapM set? with
      | some chars, _ => ofSet (.unionAll (chars.map .singleton))
      | none, some sets => ofSet (.unionAll sets)
      | none, none =>
        match fuel, splitFront? plans with
        | fuel + 1, some (front, rests) => ofParts (front ++ [go fuel rests])
        | _, _ => choice plans

/-- The plan of a repetition. What has no width need not be repeated. -/
def ofRepetition (lazy : Bool) (body : Plan) (min : Nat) (max : Option Nat) : Plan :=
  let (min, max) :=
    if body.isWidthless then (Nat.min min 1, some (Nat.min (max.getD 1) 1)) else (min, max)
  match min, max with
  | 0, some 0 => text []
  | 1, some 1 => body
  | min, max => repetition lazy body min max

mutual

/-- The plan of an expression. -/
def ofExpr : Expr → Plan
  | .empty => text []
  | .chars s => ofSet s
  | .look condition => look condition
  | .group body => group (ofExpr body)
  | .concat parts => ofParts (ofExprs parts)
  | .either branches => ofBranches (ofExprs branches)
  | .repetition lazy body min max => ofRepetition lazy (ofExpr body) min max

/-- The plans of several expressions. -/
def ofExprs : List Expr → List Plan
  | [] => []
  | expr :: exprs => ofExpr expr :: ofExprs exprs

end

/-- The texts among which a plan is a choice, if it is one among texts that are not empty. -/
def texts? (plans : List Plan) : Option (List (List Char)) :=
  plans.mapM fun
    | text [] => none
    | text chars => some chars
    | _ => none

end Plan

end LatestTag.Pattern

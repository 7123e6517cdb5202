import LatestTag.Pattern.Escape

/-!
# Classes in brackets

A class in brackets lists characters, ranges, named classes and further classes in brackets, and may
combine such lists by operations, which group to the left. The parser keeps the classes that are
open, innermost first, so that reading is one pass over the characters.
-/

namespace LatestTag.Pattern

open Text (trimStart)

/-- A class in brackets that is still being read. -/
structure OpenClass where
  /-- Whether the class is the complement of what it lists. -/
  negated : Bool
  /-- The parts since the last operation, latest first. -/
  parts : List ClassTree
  /-- What stands left of the last operation, and the operation. -/
  pending : Option (ClassTree × ClassOp)

namespace OpenClass

/-- The class with one more part. -/
def add (cls : OpenClass) (part : ClassTree) : OpenClass := { cls with parts := part :: cls.parts }

/-- What the class has listed so far. -/
def content (cls : OpenClass) : ClassTree :=
  let right := ClassTree.ofParts cls.parts.reverse
  match cls.pending with
  | some (left, op) => .op op left right
  | none => right

/-- The class behind an operation. -/
def push (cls : OpenClass) (op : ClassOp) : OpenClass :=
  { cls with parts := [], pending := some (cls.content, op) }

end OpenClass

/-- The class with that name. -/
def bracketClassOfName? (name : List Char) : Option BracketClass :=
  match String.ofList name with
  | "alnum" => some .alnum
  | "alpha" => some .alpha
  | "ascii" => some .ascii
  | "blank" => some .blank
  | "cntrl" => some .cntrl
  | "digit" => some .digit
  | "graph" => some .graph
  | "lower" => some .lower
  | "print" => some .print
  | "punct" => some .punct
  | "space" => some .space
  | "upper" => some .upper
  | "word" => some .word
  | "xdigit" => some .xdigit
  | _ => none

/-- A class of the form `[:name:]`, of which the opening bracket is read. -/
def readBracketClass? : List Char → Option (ClassTree × List Char)
  | ':' :: '^' :: rest => go true rest
  | ':' :: rest => go false rest
  | _ => none
where
  /-- Reads from the name on. -/
  go (negated : Bool) (ahead : List Char) : Option (ClassTree × List Char) := do
    let name := ahead.takeWhile (· ≠ ':')
    let rest ← afterWord? ":]" (ahead.drop name.length)
    some (.named negated (.bracket (← bracketClassOfName? name)), rest)

/-- A character, or an escape, within brackets. -/
def readClassAtom (verbose : Bool) : List Char → Option (Atom × List Char)
  | [] => none
  | '\\' :: rest => readEscape verbose rest
  | c :: rest => some (.literal (.plain c), rest)

/-- The character that decides about a `-` in front of it: the next one, or in a verbose pattern the
next one that is no white space, where one `#` counts as white space. -/
def decider? (verbose : Bool) (behind : List Char) : Option Char :=
  if verbose then
    match trimStart behind with
    | '#' :: rest => (trimStart rest).head?
    | other => other.head?
  else behind.head?

/-- Whether a range begins here, with the first character read: a `-` that ends neither the class
nor makes an operation. -/
def rangeAhead (verbose : Bool) : List Char → Bool
  | '-' :: rest =>
    let decider := decider? verbose rest
    decider ≠ some ']' && decider ≠ some '-'
  | _ => false

/-- A character, a range or a class by name. -/
def readClassPart (verbose : Bool) (ahead : List Char) : Option (ClassTree × List Char) := do
  let (first, rest) ← readClassAtom verbose ahead
  let rest := skipSpace verbose rest
  if rangeAhead verbose rest then
    let (last, rest) ← readClassAtom verbose (skipSpace verbose (rest.drop 1))
    let first ← first.literal?
    let last ← last.literal?
    if first.char ≤ last.char then some (.range first last, rest) else none
  else some (← first.classTree?, rest)

/-- The dashes at the start of a class, each of which stands for itself. -/
def readDashes (verbose : Bool) (cls : OpenClass) (ahead : List Char) : OpenClass × List Char :=
  match _h : ahead with
  | '-' :: rest => readDashes verbose (cls.add (.literal (.plain '-'))) (skipSpace verbose rest)
  | ahead => (cls, ahead)
termination_by ahead.length
decreasing_by
  have := length_skipSpace_le verbose rest
  simp
  omega

/-- The start of a class, of which the opening bracket is read: a `^` for the complement, and
dashes or a closing bracket that stand for themselves. -/
def openClass (verbose : Bool) (ahead : List Char) : OpenClass × List Char :=
  let (negated, ahead) := match skipSpace verbose ahead with
    | '^' :: rest => (true, skipSpace verbose rest)
    | ahead => (false, ahead)
  match readDashes verbose ⟨negated, [], none⟩ ahead with
  | (⟨negated, [], pending⟩, ']' :: rest) =>
    (⟨negated, [.literal (.plain ']')], pending⟩, skipSpace verbose rest)
  | opened => opened

/-- The rest of a class in brackets, and of the classes around it. Each step takes a character at
least, so as much fuel as there are characters suffices. -/
def readClass (verbose : Bool) (fuel : Nat) (cls : OpenClass) (outer : List OpenClass)
    (ahead : List Char) : Option (Tree × List Char) :=
  match fuel with
  | 0 => none
  | fuel + 1 =>
    match skipSpace verbose ahead with
    | [] => none
    | '[' :: rest =>
      match readBracketClass? rest with
      | some (part, rest) => readClass verbose fuel (cls.add part) outer rest
      | none =>
        let (inner, rest) := openClass verbose rest
        readClass verbose fuel inner (cls :: outer) rest
    | ']' :: rest =>
      match outer with
      | [] => some (.bracketed cls.negated cls.content, rest)
      | surrounding :: outer =>
        readClass verbose fuel (surrounding.add (.bracketed cls.negated cls.content)) outer rest
    | '&' :: '&' :: rest => readClass verbose fuel (cls.push .inter) outer rest
    | '-' :: '-' :: rest => readClass verbose fuel (cls.push .diff) outer rest
    | '~' :: '~' :: rest => readClass verbose fuel (cls.push .symmDiff) outer rest
    | ahead => do
      let (part, rest) ← readClassPart verbose ahead
      readClass verbose fuel (cls.add part) outer rest

/-- A class in brackets, of which the opening bracket is read. -/
def readBrackets (verbose : Bool) (ahead : List Char) : Option (Tree × List Char) :=
  let (cls, rest) := openClass verbose ahead
  readClass verbose (ahead.length + 1) cls [] rest

end LatestTag.Pattern

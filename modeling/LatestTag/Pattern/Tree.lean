/-!
# Parse trees of patterns

A `Tree` is a pattern as it is written: flags are recorded where they stand and character classes
keep their structure. What a tree means depends on the flags in force, so meaning is given to it by
`Pattern.interpret`, not here. The file also measures how deeply a tree nests, which is limited.
-/

namespace LatestTag.Pattern

/-- What a flag letter switches. -/
inductive Flag where
  /-- Letters match in either case: `i`. -/
  | ignoreCase
  /-- The signs `^` and `$` match at lines: `m`. -/
  | multiLine
  /-- The dot matches a line feed too: `s`. -/
  | dotAll
  /-- Repetitions prefer to be short: `U`. -/
  | swapGreed
  /-- Classes and word boundaries go by Unicode: `u`. -/
  | unicode
  /-- A carriage return ends a line too: `R`. -/
  | crlf
  /-- Space and comments in the pattern are skipped: `x`. -/
  | verbose
deriving DecidableEq, Repr

/-- A change of flags, as in `(?im-s)`: those switched on and those switched off. -/
structure FlagChange where
  /-- The flags before the minus sign. -/
  on : List Flag
  /-- The flags behind the minus sign. -/
  off : List Flag
deriving DecidableEq, Repr

/-- What the change does to a flag, if it mentions the flag. -/
def FlagChange.setting? (change : FlagChange) (flag : Flag) : Option Bool :=
  if change.on.contains flag then some true
  else if change.off.contains flag then some false
  else none

/-- A character of the pattern that stands for a character of the text. -/
structure Literal where
  /-- The character. -/
  char : Char
  /-- Whether it was written as a byte, with `\x` and two digits. -/
  asByte : Bool
deriving DecidableEq, Repr

/-- Where a word begins or ends. -/
inductive WordEdge where
  /-- Between a word character and another one, or an end of the text. -/
  | boundary
  /-- Anywhere else. -/
  | noBoundary
  /-- Before the first character of a word. -/
  | start
  /-- Behind the last character of a word. -/
  | stop
  /-- Behind no word character. -/
  | startHalf
  /-- Before no word character. -/
  | stopHalf
deriving DecidableEq, Repr

/-- A condition on a position of the text, as it is written. -/
inductive Assertion where
  /-- The sign `^`, which depends on the flags. -/
  | lineStart
  /-- The sign `$`, which depends on the flags. -/
  | lineEnd
  /-- The start of the text, `\A`. -/
  | textStart
  /-- The end of the text, `\z`. -/
  | textEnd
  /-- A word boundary, `\b`, or one of its relatives. -/
  | word (edge : WordEdge)
deriving DecidableEq, Repr

/-- The classes with a letter of their own. -/
inductive Shorthand where
  /-- Digits, `\d`. -/
  | digit
  /-- Space, `\s`. -/
  | space
  /-- Word characters, `\w`. -/
  | word
deriving DecidableEq, Repr

/-- The classes that are written `[:name:]` within brackets. -/
inductive BracketClass where
  | alnum | alpha | ascii | blank | cntrl | digit | graph | lower | print | punct | space | upper
  | word | xdigit
deriving DecidableEq, Repr

/-- A class that goes by a name. -/
inductive NamedClass where
  /-- A class with a letter of its own. -/
  | shorthand (cls : Shorthand)
  /-- A class written `[:name:]`. -/
  | bracket (cls : BracketClass)
  /-- A property, a category or a script, by name. -/
  | property (name : List Char)
  /-- A property and its value, by name. -/
  | propertyValue (property value : List Char)
deriving DecidableEq, Repr

/-- An operation between two parts of a class in brackets. -/
inductive ClassOp where
  /-- What both have, `&&`. -/
  | inter
  /-- What only the left one has, `--`. -/
  | diff
  /-- What exactly one has, `~~`. -/
  | symmDiff
deriving DecidableEq, Repr

/-- What stands in brackets. -/
inductive ClassTree where
  /-- One character. -/
  | literal (literal : Literal)
  /-- The characters from one to another. -/
  | range (first last : Literal)
  /-- A class by name, or its complement. -/
  | named (negated : Bool) (cls : NamedClass)
  /-- A class in brackets, or its complement. -/
  | bracketed (negated : Bool) (content : ClassTree)
  /-- Several parts, of which any may match. -/
  | union (parts : List ClassTree)
  /-- Two parts joined by an operation. -/
  | op (op : ClassOp) (left right : ClassTree)

/-- How a group is opened. -/
inductive GroupKind where
  /-- A group whose match is recorded. -/
  | capture
  /-- A group that only holds together, and may change flags inside. -/
  | plain (change : FlagChange)
deriving DecidableEq, Repr

/-- A pattern as it is written. -/
inductive Tree where
  /-- Nothing. -/
  | empty
  /-- A change of flags for the rest of the group. -/
  | flags (change : FlagChange)
  /-- A character. -/
  | literal (literal : Literal)
  /-- The dot. -/
  | dot
  /-- A condition on the position. -/
  | assertion (assertion : Assertion)
  /-- A class by name, or its complement. -/
  | named (negated : Bool) (cls : NamedClass)
  /-- A class in brackets, or its complement. -/
  | bracketed (negated : Bool) (content : ClassTree)
  /-- A part that is repeated, and that prefers to be so seldom when it is lazy. -/
  | repetition (lazy : Bool) (body : Tree) (min : Nat) (max : Option Nat)
  /-- A group. -/
  | group (kind : GroupKind) (body : Tree)
  /-- Parts one after another. -/
  | concat (parts : List Tree)
  /-- Parts of which any may match. -/
  | alternation (branches : List Tree)

namespace ClassTree

/-- The parts as one: a single part stands for itself. -/
def ofParts : List ClassTree → ClassTree
  | [part] => part
  | parts => .union parts

mutual

/-- The levels of nesting: brackets, several parts and operations each make one. -/
def depth : ClassTree → Nat
  | literal _ | range _ _ | named _ _ => 0
  | bracketed _ content => content.depth + 1
  | union [] => 0
  | union parts => depthAll parts + 1
  | op _ left right => max left.depth right.depth + 1

/-- The levels of nesting of the deepest part. -/
def depthAll : List ClassTree → Nat
  | [] => 0
  | part :: parts => max part.depth (depthAll parts)

end

end ClassTree

namespace Tree

/-- The parts in sequence as one: no part is the empty pattern, a single part stands for itself. -/
def ofParts : List Tree → Tree
  | [] => .empty
  | [part] => part
  | parts => .concat parts

/-- The branches as one: a single branch stands for itself. -/
def ofBranches : List Tree → Tree
  | [branch] => branch
  | branches => .alternation branches

mutual

/-- The levels of nesting: brackets, repetitions, groups, sequences and alternatives each make
one. -/
def depth : Tree → Nat
  | empty | flags _ | literal _ | dot | assertion _ | named _ _ => 0
  | bracketed _ content => content.depth + 1
  | repetition _ body _ _ => body.depth + 1
  | group _ body => body.depth + 1
  | concat parts => depthAll parts + 1
  | alternation branches => depthAll branches + 1

/-- The levels of nesting of the deepest part. -/
def depthAll : List Tree → Nat
  | [] => 0
  | part :: parts => max part.depth (depthAll parts)

end

/-- The deepest nesting that a pattern may have. -/
def depthLimit : Nat := 250

end Tree

end LatestTag.Pattern

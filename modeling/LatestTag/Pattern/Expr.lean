import LatestTag.Pattern.Tree
import LatestTag.Unicode.CaseFold
import LatestTag.Unicode.Lookup

/-!
# Regular expressions

An `Expr` is what a pattern means once its flags are applied: character sets, conditions on the
position, sequences, alternatives and repetitions. `interpret` gives the expression of a parse tree.
It fails where a pattern asks for something that is no set of characters: an unknown property, or,
without the Unicode flag, a byte outside ASCII or a complement, which would hold such bytes.
-/

namespace LatestTag.Pattern

open Unicode (CharSet CodeRange CaseFold.close CaseFold.closeAscii)

/-- A condition on a position of the text. -/
inductive Look where
  /-- The start of the text. -/
  | textStart
  /-- The end of the text. -/
  | textEnd
  /-- The start of a line; with `crlf`, carriage returns end lines too. -/
  | lineStart (crlf : Bool)
  /-- The end of a line. -/
  | lineEnd (crlf : Bool)
  /-- A word boundary, with words made of Unicode or only of ASCII characters. -/
  | word (edge : WordEdge) (unicode : Bool)
deriving DecidableEq, Repr

/-- A regular expression over characters. -/
inductive Expr where
  /-- Matches the empty text. -/
  | empty
  /-- Matches one character of the set. -/
  | chars (set : CharSet)
  /-- Matches the empty text at certain positions. -/
  | look (look : Look)
  /-- Matches as its part does, which is a group. -/
  | group (body : Expr)
  /-- Matches the parts one after another. -/
  | concat (parts : List Expr)
  /-- Matches as any of the branches does. -/
  | either (branches : List Expr)
  /-- Matches the part repeatedly, at least `min` times and at most `max` times if that is given. A
  lazy repetition prefers to be short, which does not change whether there is a match. -/
  | repetition (lazy : Bool) (body : Expr) (min : Nat) (max : Option Nat)

/-- The flags in force at some point of a pattern, as far as they matter to its meaning. -/
structure Mode where
  /-- Letters match in either case. -/
  ignoreCase : Bool := false
  /-- The signs `^` and `$` match at lines. -/
  multiLine : Bool := false
  /-- The dot matches a line feed too. -/
  dotAll : Bool := false
  /-- Classes and word boundaries go by Unicode. -/
  unicode : Bool := true
  /-- A carriage return ends a line too. -/
  crlf : Bool := false
  /-- Repetitions are lazy unless they are marked so. -/
  swapGreed : Bool := false
deriving DecidableEq, Repr

namespace Mode

/-- The mode after a change of flags. -/
def change (mode : Mode) (change : FlagChange) : Mode where
  ignoreCase := (change.setting? .ignoreCase).getD mode.ignoreCase
  multiLine := (change.setting? .multiLine).getD mode.multiLine
  dotAll := (change.setting? .dotAll).getD mode.dotAll
  unicode := (change.setting? .unicode).getD mode.unicode
  crlf := (change.setting? .crlf).getD mode.crlf
  swapGreed := (change.setting? .swapGreed).getD mode.swapGreed

/-- The set with the other cases of its letters, if case is ignored. -/
def fold (mode : Mode) (set : CharSet) : CharSet :=
  if !mode.ignoreCase then set
  else if mode.unicode then CaseFold.close set
  else CaseFold.closeAscii set

/-- The set, or its complement. Without the Unicode flag a complement holds bytes that are no
characters. -/
def negate? (mode : Mode) (negated : Bool) (set : CharSet) : Option CharSet :=
  if !negated then some set else if mode.unicode then some set.compl else none

/-- The characters that are letters of a class in the ASCII range. -/
def asciiSet (ranges : List (Char × Char)) : CharSet :=
  .ofRanges (ranges.map fun (first, last) => ⟨first.toNat, last.toNat⟩)

/-- The members of a class written `[:name:]`. -/
def bracketSet : BracketClass → CharSet
  | .alnum => asciiSet [('0', '9'), ('A', 'Z'), ('a', 'z')]
  | .alpha => asciiSet [('A', 'Z'), ('a', 'z')]
  | .ascii => .ascii
  | .blank => asciiSet [('\t', '\t'), (' ', ' ')]
  | .cntrl => asciiSet [('\x00', '\x1F'), ('\x7F', '\x7F')]
  | .digit => asciiSet [('0', '9')]
  | .graph => asciiSet [('!', '~')]
  | .lower => asciiSet [('a', 'z')]
  | .print => asciiSet [(' ', '~')]
  | .punct => asciiSet [('!', '/'), (':', '@'), ('[', '\x60'), ('\x7b', '~')]
  | .space => asciiSet [('\t', '\r'), (' ', ' ')]
  | .upper => asciiSet [('A', 'Z')]
  | .word => asciiSet [('0', '9'), ('A', 'Z'), ('_', '_'), ('a', 'z')]
  | .xdigit => asciiSet [('0', '9'), ('A', 'F'), ('a', 'f')]

/-- The members of a class with a letter of its own. -/
def shorthandSet (mode : Mode) : Shorthand → CharSet
  | .digit => if mode.unicode then Unicode.Category.decimalNumber else bracketSet .digit
  | .space => if mode.unicode then Unicode.Property.whiteSpace else bracketSet .space
  | .word => if mode.unicode then Unicode.Property.word else bracketSet .word

/-- The members of a class by name, or of its complement. Case is ignored in all of these classes
except those with a letter of their own, which do not depend on it. -/
def namedSet? (mode : Mode) (negated : Bool) : NamedClass → Option CharSet
  | .shorthand cls => mode.negate? negated (mode.shorthandSet cls)
  | .bracket cls => mode.negate? negated (mode.fold (bracketSet cls))
  | .property name => do
    if mode.unicode then mode.negate? negated (mode.fold (← Unicode.named? name)) else none
  | .propertyValue property value => do
    if mode.unicode then mode.negate? negated (mode.fold (← Unicode.valued? property value))
    else none

/-- The character of a literal, unless it is a byte that is none. -/
def char? (mode : Mode) (literal : Literal) : Option Char :=
  if !mode.unicode && literal.asByte && literal.char.toNat ≥ 0x80 then none else some literal.char

/-- The character of a literal in brackets, where only ASCII is left without the Unicode flag. -/
def classChar? (mode : Mode) (literal : Literal) : Option Char :=
  if !mode.unicode && literal.char.toNat ≥ 0x80 then none else some literal.char

/-- What an operation makes of two sets. -/
def operate (op : ClassOp) (left right : CharSet) : CharSet :=
  match op with
  | .inter => left.inter right
  | .diff => left.diff right
  | .symmDiff => left.symmDiff right

mutual

/-- The members of a class in brackets. -/
def classSet? (mode : Mode) : ClassTree → Option CharSet
  | .literal literal => do some (.singleton (← mode.classChar? literal))
  | .range first last => do
    some (.range (← mode.classChar? first).toNat (← mode.classChar? last).toNat)
  | .named negated cls => mode.namedSet? negated cls
  | .bracketed negated content => do
    mode.negate? negated (mode.fold (← mode.classSet? content))
  | .union parts => do some (.unionAll (← mode.classSets? parts))
  | .op op left right => do
    some (operate op (mode.fold (← mode.classSet? left)) (mode.fold (← mode.classSet? right)))

/-- The members of each part of a class. -/
def classSets? (mode : Mode) : List ClassTree → Option (List CharSet)
  | [] => some []
  | part :: parts => do some ((← mode.classSet? part) :: (← mode.classSets? parts))

end

/-- The expression of a single character. -/
def ofChar (mode : Mode) (c : Char) : Expr :=
  .chars (mode.fold (.singleton c))

/-- The characters that a dot matches. -/
def dotSet? (mode : Mode) : Option CharSet :=
  if !mode.unicode then none
  else if mode.dotAll then some .univ
  else if mode.crlf then some ((CharSet.univ.diff (.singleton '\n')).diff (.singleton '\r'))
  else some (CharSet.univ.diff (.singleton '\n'))

/-- The condition that an assertion makes. -/
def look (mode : Mode) : Assertion → Look
  | .lineStart => if mode.multiLine then .lineStart mode.crlf else .textStart
  | .lineEnd => if mode.multiLine then .lineEnd mode.crlf else .textEnd
  | .textStart => .textStart
  | .textEnd => .textEnd
  | .word edge => .word edge mode.unicode

end Mode

mutual

/-- The expression of a parse tree, read in a mode, and the mode in which what follows in the same
group is read. -/
def interpret (mode : Mode) : Tree → Option (Expr × Mode)
  | .empty => some (.empty, mode)
  | .flags change => some (.empty, mode.change change)
  | .literal literal => do some (mode.ofChar (← mode.char? literal), mode)
  | .dot => do some (.chars (← mode.dotSet?), mode)
  | .assertion assertion => some (.look (mode.look assertion), mode)
  | .named negated cls => do some (.chars (← mode.namedSet? negated cls), mode)
  | .bracketed negated content => do
    let set ← mode.classSet? (.bracketed negated content)
    some (.chars set, mode)
  | .repetition lazy body min max => do
    let (body, mode) ← interpret mode body
    some (.repetition (lazy != mode.swapGreed) body min max, mode)
  | .group .capture body => do
    let (body, _) ← interpret mode body
    some (.group body, mode)
  | .group (.plain change) body => do
    let (body, _) ← interpret (mode.change change) body
    some (body, mode)
  | .concat parts => do
    let (parts, mode) ← interpretAll mode parts
    some (.concat parts, mode)
  | .alternation branches => do
    let (branches, mode) ← interpretAll mode branches
    some (.either branches, mode)

/-- The expressions of parse trees that follow one another. -/
def interpretAll (mode : Mode) : List Tree → Option (List Expr × Mode)
  | [] => some ([], mode)
  | tree :: trees => do
    let (expr, mode) ← interpret mode tree
    let (exprs, mode) ← interpretAll mode trees
    some (expr :: exprs, mode)

end

end LatestTag.Pattern

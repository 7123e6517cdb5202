import LatestTag.Pattern.Brackets
import LatestTag.Unicode.V17

/-!
# Parsing patterns

The parser reads a pattern in one pass. It keeps the groups that are open, innermost first, each
with the branches and the parts that stood before it, so that a closing parenthesis has all it needs
at hand.
-/

namespace LatestTag.Pattern

open Text (trimStart)

/-- What has been read of one group, or of the pattern outside all groups. -/
structure Progress where
  /-- Whether white space and comments are skipped. -/
  verbose : Bool
  /-- The branches that are complete, latest first. -/
  branches : List Tree
  /-- The parts of the current branch, latest first. -/
  parts : List Tree

namespace Progress

/-- The progress with one more part. -/
def add (progress : Progress) (part : Tree) : Progress :=
  { progress with parts := part :: progress.parts }

/-- The progress after the current branch. -/
def endBranch (progress : Progress) : Progress :=
  { progress with parts := [], branches := .ofParts progress.parts.reverse :: progress.branches }

/-- What has been read as a pattern. -/
def tree (progress : Progress) : Tree := .ofBranches progress.endBranch.branches.reverse

end Progress

/-- The parser between two parts of a pattern. -/
structure Parser where
  /-- The innermost open group. -/
  current : Progress
  /-- The kind of each open group with what surrounds it, innermost first. -/
  outer : List (GroupKind × Progress)
  /-- The names of groups so far. -/
  names : List (List Char)

namespace Parser

/-- The parser with one more part. -/
def add (parser : Parser) (part : Tree) : Parser :=
  { parser with current := parser.current.add part }

/-- The parser within a new group. -/
def openGroup (parser : Parser) (kind : GroupKind) : Parser :=
  let inherited := parser.current.verbose
  let verbose := match kind with
    | .capture => inherited
    | .plain change => (change.setting? .verbose).getD inherited
  { parser with
    current := ⟨verbose, [], []⟩
    outer := (kind, parser.current) :: parser.outer }

/-- The parser behind the innermost open group, if there is one. -/
def closeGroup? (parser : Parser) : Option Parser :=
  match parser.outer with
  | [] => none
  | (kind, surrounding) :: outer =>
    let current := surrounding.add (.group kind parser.current.tree)
    some { parser with current, outer }

/-- The parser with a change of flags for the rest of the group. -/
def changeFlags (parser : Parser) (change : FlagChange) : Parser :=
  let verbose := (change.setting? .verbose).getD parser.current.verbose
  { parser with current := { parser.current.add (.flags change) with verbose := verbose } }

/-- The parser with its latest part repeated, if it ends in something that can be. -/
def repeatLast? (parser : Parser) (lazy : Bool) (min : Nat) (max : Option Nat) : Option Parser :=
  match parser.current.parts with
  | [] | .empty :: _ | .flags _ :: _ => none
  | last :: parts =>
    some { parser with current.parts := .repetition lazy last min max :: parts }

end Parser

/-- What a flag letter switches. -/
def flagOfLetter? : Char → Option Flag
  | 'i' => some .ignoreCase
  | 'm' => some .multiLine
  | 's' => some .dotAll
  | 'U' => some .swapGreed
  | 'u' => some .unicode
  | 'R' => some .crlf
  | 'x' => some .verbose
  | _ => none

/-- Flag letters up to a `:` or a closing parenthesis, which is left. Each flag may occur once, and
so may a minus sign, behind which a flag has to follow. Flags read so far are in `change`, and
`negated` tells whether a minus sign was read. -/
def readFlags (change : FlagChange) (negated : Bool) : List Char → Option (FlagChange × List Char)
  | [] => none
  | ':' :: rest => some (change, ':' :: rest)
  | ')' :: rest => some (change, ')' :: rest)
  | '-' :: rest =>
    if negated || rest.head? = some ':' || rest.head? = some ')' then none
    else readFlags change true rest
  | c :: rest => do
    let flag ← flagOfLetter? c
    if (change.setting? flag).isSome then none
    else if negated then readFlags { change with off := flag :: change.off } negated rest
    else readFlags { change with on := flag :: change.on } negated rest

/-- Whether a group name may start with the character. -/
def startsName (c : Char) : Bool := c = '_' || Unicode.V17.alphabetic.contains c

/-- Whether a group name may go on with the character. -/
def continuesName (c : Char) : Bool :=
  "_.[]".toList.contains c || Unicode.V17.alphabetic.contains c
    || Unicode.V17.number.contains c

/-- The name of a group, up to a closing angle bracket, which is read too. -/
def readGroupName (ahead : List Char) : Option (List Char × List Char) := do
  let name := ahead.takeWhile (· ≠ '>')
  let rest ← afterWord? ">" (ahead.drop name.length)
  match name with
  | [] => none
  | first :: others =>
    if startsName first && others.all continuesName then some (name, rest) else none

/-- A part that starts with a parenthesis, which is read. Looking around is not supported. -/
def readGroup (parser : Parser) (ahead : List Char) : Option (Parser × List Char) :=
  let ahead := skipSpace parser.current.verbose ahead
  let named (ahead : List Char) : Option (Parser × List Char) := do
    let (name, rest) ← readGroupName ahead
    if parser.names.contains name then none
    else some (({ parser with names := name :: parser.names }).openGroup .capture, rest)
  match ahead with
  | '?' :: '=' :: _ | '?' :: '!' :: _ | '?' :: '<' :: '=' :: _ | '?' :: '<' :: '!' :: _ => none
  | '?' :: 'P' :: '<' :: rest => named rest
  | '?' :: '<' :: rest => named rest
  | '?' :: rest => do
    let (change, rest) ← readFlags ⟨[], []⟩ false rest
    match rest with
    | ':' :: rest => some (parser.openGroup (.plain change), rest)
    | _ => if change = ⟨[], []⟩ then none else some (parser.changeFlags change, rest.drop 1)
  | rest => some (parser.openGroup .capture, rest)

/-- Digits with the space behind each skipped. -/
def readDigits (verbose : Bool) (ahead : List Char) : List Char × List Char :=
  match ahead with
  | [] => ([], [])
  | c :: rest =>
    if c.isDigit then
      let (digits, rest) := readDigits verbose (skipSpace verbose rest)
      (c :: digits, rest)
    else ([], c :: rest)
termination_by ahead.length
decreasing_by
  have := length_skipSpace_le verbose rest
  simp
  omega

/-- The number that digits name, or none without digits. -/
def numberOfDigits? (digits : List Char) : Option Nat :=
  if digits.isEmpty then none
  else some (Nat.ofDigitChars 10 digits 0)

/-- A count of repetitions, with white space around it. -/
def readCountBound (verbose : Bool) (ahead : List Char) : Option Nat × List Char :=
  let (digits, rest) := readDigits verbose (trimStart ahead)
  (numberOfDigits? digits, skipSpace verbose (trimStart rest))

/-- The counts of a repetition in braces, of which the opening one is read. -/
def readCounts (verbose : Bool) (ahead : List Char) : Option ((Nat × Option Nat) × List Char) := do
  let (low, rest) := readCountBound verbose (skipSpace verbose ahead)
  let low ← low
  if low < UInt32.size then
    match rest with
    | '\x7d' :: rest => some ((low, some low), rest)
    | ',' :: rest =>
      match skipSpace verbose rest with
      | '\x7d' :: rest => some ((low, none), rest)
      | rest =>
        let (high, rest) := readCountBound verbose rest
        let high ← high
        if high < UInt32.size && low ≤ high then
          some ((low, some high), ← afterWord? "\x7d" rest)
        else none
    | _ => none
  else none

/-- The sign that makes a repetition lazy, so that it prefers to be short, if it is there. -/
def readLazy : List Char → Bool × List Char
  | '?' :: rest => (true, rest)
  | ahead => (false, ahead)

/-- One part of a pattern, of which the first character is read, or a repetition of the part before
it. -/
def readPart (parser : Parser) (first : Char) (rest : List Char) : Option (Parser × List Char) :=
  let verbose := parser.current.verbose
  let repeated (min : Nat) (max : Option Nat) (rest : List Char) : Option (Parser × List Char) := do
    let (lazy, rest) := readLazy rest
    some (← parser.repeatLast? lazy min max, rest)
  match first with
  | '(' => readGroup parser rest
  | ')' => do some (← parser.closeGroup?, rest)
  | '|' => some ({ parser with current := parser.current.endBranch }, rest)
  | '[' => do
    let (cls, rest) ← readBrackets verbose rest
    some (parser.add cls, rest)
  | '?' => repeated 0 (some 1) rest
  | '*' => repeated 0 none rest
  | '+' => repeated 1 none rest
  | '\x7b' => do
    let ((min, max), rest) ← readCounts verbose rest
    repeated min max (skipSpace verbose rest)
  | '\\' => do
    let (atom, rest) ← readEscape verbose rest
    some (parser.add atom.tree, rest)
  | '.' => some (parser.add .dot, rest)
  | '^' => some (parser.add (.assertion .lineStart), rest)
  | '$' => some (parser.add (.assertion .lineEnd), rest)
  | c => some (parser.add (.literal (.plain c)), rest)

/-- The rest of a pattern. Each step takes a character at least, so as much fuel as there are
characters suffices. -/
def readParts (fuel : Nat) (parser : Parser) (ahead : List Char) : Option Parser :=
  match fuel with
  | 0 => none
  | fuel + 1 =>
    match skipSpace parser.current.verbose ahead with
    | [] => some parser
    | first :: rest => do
      let (parser, rest) ← readPart parser first rest
      readParts fuel parser rest

/-- The parse tree of a pattern, unless it is malformed, leaves a group open or nests too deeply. -/
def parse? (pattern : String) : Option Tree := do
  let ahead := pattern.toList
  let parser ← readParts (ahead.length + 1) ⟨⟨false, [], []⟩, [], []⟩ ahead
  let tree := parser.current.tree
  if parser.outer.isEmpty && tree.depth ≤ Tree.depthLimit then some tree else none

end LatestTag.Pattern

import LatestTag.Pattern.Plan
import LatestTag.Pattern.Trie
import LatestTag.Unicode.Utf8
import Std.Data.HashMap

/-!
# How large a pattern is

A pattern is refused when the automaton for it would grow too large. There are two automata over
bytes, one that reads the text forwards and one that reads it backwards, and each has its limit;
counted repetitions are written out in both, so nested counts multiply. An `Extent` is how far an
automaton has grown, in bytes of memory: a state takes `stateSize`, a transition of a state with
several `transitionSize`, and a branch of a state without reading `branchSize`. Laying out a plan is
a step from one extent to the next, which fails at the limit.

The states of a character set are shared by means of a small table, whose entries overwrite each
other where their keys fall into the same slot. The keys contain the numbers of states, so how much
is shared depends on what has been laid out before.
-/

namespace LatestTag.Pattern

open Unicode (CharSet ByteRanges)

/-- The size of a state. -/
def stateSize : Nat := 32

/-- The size of a transition among several of one state. -/
def transitionSize : Nat := 8

/-- The size of a branch between states. -/
def branchSize : Nat := 4

/-- The greatest size of an automaton. -/
def sizeLimit : Nat := 10 * 1024 * 1024

/-- How far an automaton has grown. -/
structure Extent where
  /-- The number of its states, which is the number of the next one. -/
  states : Nat
  /-- The bytes that the states take besides their own size. -/
  extra : Nat
deriving DecidableEq, Repr

/-- The size in bytes. -/
def Extent.bytes (extent : Extent) : Nat := stateSize * extent.states + extent.extra

/-- A step in the layout of an automaton, which fails if the automaton becomes too large. -/
abbrev Growth := Extent → Option Extent

/-- Adds states, and bytes besides their size. -/
def grow (states extra : Nat) : Growth := fun extent =>
  let extent := ⟨extent.states + states, extent.extra + extra⟩
  if extent.bytes ≤ sizeLimit then some extent else none

/-- Adds branches to a state. -/
def branch (count : Nat) : Growth := grow 0 (branchSize * count)

/-- Takes a step so many times. -/
def Growth.times (step : Growth) : Nat → Growth
  | 0, extent => some extent
  | count + 1, extent =>
    match step extent with
    | some extent => step.times count extent
    | none => none

/-- Where a key belongs in a table with so many slots, by a hash of its numbers modulo 2⁶⁴. -/
def slot (slots : Nat) (numbers : List Nat) : Nat :=
  (numbers.foldl (fun (hash : UInt64) n => (hash ^^^ UInt64.ofNat n) * 1099511628211)
    14695981039346656037).toNat % slots

/-- The states that can be shared: the latest key in each slot, and the number of its state. -/
abbrev Shared := Std.HashMap Nat (List Nat × Nat)

/-- An automaton for a character set while it grows. -/
structure SetExtent where
  /-- How far the automaton has grown. -/
  extent : Extent
  /-- The states of the set that can be shared. -/
  shared : Shared

namespace SetExtent

/-- The slots for the states of an automaton that reads forwards. -/
def forwardSlots : Nat := 10000

/-- The slots for the states of an automaton that reads backwards. -/
def backwardSlots : Nat := 1000

/-- The number of the state for a key: a shared one, or a new one that takes so many bytes besides
its own. -/
def state (slots extra : Nat) (key : List Nat) (grown : SetExtent) : Option (Nat × SetExtent) :=
  let slot := slot slots key
  match grown.shared[slot]?.filter (·.1 == key) with
  | some (_, number) => some (number, grown)
  | none => do
    let extent ← grow 1 extra grown.extent
    some (grown.extent.states, ⟨extent, grown.shared.insert slot (key, grown.extent.states)⟩)

/-- The number of the state from which an automaton reads byte sequences of at most `length` bytes
forwards, to the state `target`. The states that its transitions lead to are laid out before it. -/
def forward (target : Nat) : Nat → List ByteRanges → SetExtent → Option (Nat × SetExtent)
  | 0, _, grown => some (target, grown)
  | length + 1, sequences, grown =>
    match Unicode.Utf8.byHead sequences with
    | [] => some (target, grown)
    | groups => do
      let (key, grown) ← groups.foldlM (fun (key, grown) (range, tails) => do
        let (next, grown) ← forward target length tails grown
        some (key ++ [range.lo, range.hi, next], grown)) ([], grown)
      grown.state forwardSlots (transitionSize * groups.length) key

/-- The number of the state that an automaton reaches from the state `source` by reading a byte
sequence backwards. -/
def backward (source : Nat) : ByteRanges → SetExtent → Option (Nat × SetExtent)
  | [], grown => some (source, grown)
  | range :: ranges, grown => do
    let (next, grown) ← grown.state backwardSlots 0 [source, range.lo, range.hi]
    backward next ranges grown

/-- Reads byte sequences backwards from the state `source`, each behind a branch of its own. -/
def backwardAll (source : Nat) : List ByteRanges → SetExtent → Option Extent
  | [], grown => some grown.extent
  | ranges :: rest, grown => do
    let (_, grown) ← grown.backward source ranges
    let extent ← branch 1 grown.extent
    backwardAll source rest ⟨extent, grown.shared⟩

end SetExtent

/-- Lays out a character set: with one state and its end if it lies within ASCII, and otherwise by
the bytes of its members. -/
def growSet (direction : Direction) (set : CharSet) : Growth :=
  if set.isAscii then grow 2 (transitionSize * set.ranges.length)
  else
    let sequences := Unicode.Utf8.sequences set
    match direction with
    | .forward => fun extent => do
      let grown ← grow 1 0 extent
      let (_, grown) ← SetExtent.forward extent.states 4 sequences ⟨grown, {}⟩
      some grown.extent
    | .backward => fun extent => do
      let grown ← grow 2 0 extent
      SetExtent.backwardAll (extent.states + 1) sequences ⟨grown, {}⟩

/-- Lays out edges of a trie that leave a node together: with one state, behind a branch. -/
def growEdges (count : Nat) : Growth :=
  match count with
  | 0 => some
  | 1 => grow 1 0 >=> branch 1
  | count => grow 1 (transitionSize * count) >=> branch 1

namespace Trie

mutual

/-- Lays out a node, which has a branch for each of its lists of edges and for each text that ends
there. -/
def layOut : Trie → Growth
  | node edges earlier =>
    grow 1 0 >=> branch earlier.length >=> layOutEdges edges >=> growEdges edges.length
      >=> layOutEarlier earlier

/-- Lays out lists of edges, each apart from the others. -/
def layOutEarlier : List (List (Nat × Trie)) → Growth
  | [] => some
  | edges :: earlier => layOutEdges edges >=> growEdges edges.length >=> layOutEarlier earlier

/-- Lays out the nodes behind edges. All nodes without edges are one. -/
def layOutEdges : List (Nat × Trie) → Growth
  | [] => some
  | (_, child) :: edges =>
    (if child.hasEdges then child.layOut else some) >=> layOutEdges edges

end

end Trie

/-- The bytes of a text, in the order in which an automaton reads them. -/
def bytesOf (direction : Direction) (text : List Char) : List Nat :=
  let bytes := text.flatMap fun c => Unicode.Utf8.encode c.toNat
  match direction with
  | .forward => bytes
  | .backward => bytes.reverse

/-- Lays out a choice among texts: a trie, and the state where the texts end. -/
def growTexts (direction : Direction) (texts : List (List Char)) : Growth :=
  grow 1 0 >=> (Trie.ofTexts (texts.map (bytesOf direction))).layOut

/-- Lays out a part as often as it may be repeated. A part that can match the empty text takes more
to be repeated without end. -/
def growRepetition (body : Growth) (canBeEmpty : Bool) (min : Nat) (max : Option Nat) : Growth :=
  match min, max with
  | 0, some 1 => grow 1 0 >=> body >=> grow 1 0 >=> branch 2
  | 0, none =>
    if canBeEmpty then body >=> grow 3 0 >=> branch 4 else grow 1 0 >=> body >=> branch 2
  | min, none => Growth.times body min >=> grow 1 0 >=> branch 2
  | min, some max =>
    grow (if min = 0 then 1 else 0) 0 >=> Growth.times body min >=>
      if min = max then some
      else grow 1 0 >=> Growth.times (grow 1 0 >=> body >=> branch 2) (max - min)

namespace Plan

mutual

/-- Lays out a plan. Groups are recorded only when reading forwards. -/
def layOut (direction : Direction) : Plan → Growth
  | text chars => grow (Nat.max 1 (bytesOf direction chars).length) 0
  | set s => growSet direction s
  | look _ => grow 1 0
  | group body =>
    match direction with
    | .forward => grow 1 0 >=> layOut direction body >=> grow 1 0
    | .backward => layOut direction body
  | sequence parts => layOutParts direction parts
  | choice branches =>
    match texts? branches with
    | some texts => growTexts direction texts
    | none => layOutBranches direction 0 branches
  | repetition _ body min max =>
    growRepetition (layOut direction body) (!body.minLength?.any (0 < ·)) min max

/-- Lays out parts one after another, in the order in which they are read. -/
def layOutParts (direction : Direction) : List Plan → Growth
  | [] => some
  | part :: parts =>
    match direction with
    | .forward => layOut direction part >=> layOutParts direction parts
    | .backward => layOutParts direction parts >=> layOut direction part

/-- Lays out branches behind others. Once there are two of them, they get states where they part and
meet. -/
def layOutBranches (direction : Direction) (before : Nat) : List Plan → Growth
  | [] => some
  | part :: parts =>
    layOut direction part >=>
      (match before with
        | 0 => some
        | 1 => grow 2 0 >=> branch 2
        | _ => branch 1) >=>
      layOutBranches direction (before + 1) parts

end

/-- Lays out the automaton for a plan. Unless a match is tied to the end that the automaton starts
from, it can skip any bytes first. -/
def layOutAll (direction : Direction) (plan : Plan) : Growth :=
  (if plan.isAnchored direction then grow 1 0 else grow 3 transitionSize >=> branch 2) >=>
    match direction with
    | .forward => plan.group.layOut direction >=> grow 1 0
    | .backward => plan.layOut direction >=> grow 1 0

/-- The number of texts from which on a choice among them is searched for without an automaton. -/
def manyTexts : Nat := 3000

/-- Whether the plan is a choice among so many texts that it needs no automaton. -/
def isManyTexts : Plan → Bool
  | choice branches => manyTexts ≤ branches.length && (texts? branches).isSome
  | _ => false

/-- Whether the automata for a plan are small enough. -/
def fits (plan : Plan) : Bool :=
  plan.isManyTexts ||
    ((plan.layOutAll .forward ⟨0, 0⟩).isSome && (plan.layOutAll .backward ⟨0, 0⟩).isSome)

end Plan

end LatestTag.Pattern

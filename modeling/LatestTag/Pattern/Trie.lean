/-!
# Tries of byte strings

A choice among texts is laid out as a trie of their bytes, in which texts share what they begin
with. Earlier texts go before later ones, so where a text ends, the edges of its node are sealed: a
later text that passes there begins edges anew.
-/

namespace LatestTag.Pattern

/-- A node of a trie. -/
inductive Trie where
  /-- A node with the edges that later texts may follow, behind other edges that are sealed and that
  come latest first. -/
  | node (edges : List (Nat × Trie)) (earlier : List (List (Nat × Trie)))

namespace Trie

/-- The trie without texts. -/
def leaf : Trie := node [] []

/-- Whether the node has edges. -/
def hasEdges : Trie → Bool
  | node edges earlier => !edges.isEmpty || earlier.any (!·.isEmpty)

/-- Seals the edges of a node, where a text ends. Another text that ends there before any edge makes
no difference. -/
def sealed : Trie → Trie
  | node edges earlier =>
    if edges.isEmpty && earlier.any (fun _ => true) && earlier.all (·.isEmpty) then
      node edges earlier
    else node [] (edges :: earlier)

/-- Changes the node behind an edge for this byte, which is added behind the others if there is
none. -/
def atEdge (byte : Nat) (change : Trie → Trie) : List (Nat × Trie) → List (Nat × Trie)
  | [] => [(byte, change leaf)]
  | (other, child) :: edges =>
    if other = byte then (other, change child) :: edges
    else (other, child) :: atEdge byte change edges

/-- Adds a text. -/
def insert : List Nat → Trie → Trie
  | [], trie => trie.sealed
  | byte :: bytes, node edges earlier => node (atEdge byte (insert bytes) edges) earlier

/-- The trie of some texts. -/
def ofTexts (texts : List (List Nat)) : Trie :=
  texts.foldl (fun trie text => trie.insert text) leaf

end Trie

end LatestTag.Pattern

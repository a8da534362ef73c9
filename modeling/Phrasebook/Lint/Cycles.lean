/-! # Cycles of a graph

A depth-first search over a graph of names. A node is on the path while the search is inside it and
done afterwards; an edge to a node on the path closes a cycle, and the part of the path from that
node on, with the node again at its end, is reported.

The search enters a node only while it is unmarked, so the path never holds more nodes than the
graph has. That number bounds the recursion.
-/

namespace Phrasebook

/-- A directed graph: each node with the targets of its edges. -/
structure Graph where
  edges : List (String × List String)
  deriving DecidableEq, Inhabited

/-- What the search knows of a node that it has entered. -/
inductive Mark where
  | onPath
  | done
  deriving Repr, DecidableEq, Inhabited

/-- A state of the search: marks with the latest first, the path from its start, the cycles found.
-/
structure Search where
  marks : List (String × Mark) := []
  path : List String := []
  cycles : List (List String) := []
  deriving DecidableEq, Inhabited

namespace Search

/-- The mark of a node that was entered. -/
def mark? (s : Search) (node : String) : Option Mark :=
  (s.marks.find? fun entry => entry.1 = node).map (·.2)

def enter (s : Search) (node : String) : Search :=
  { s with marks := (node, .onPath) :: s.marks, path := s.path ++ [node] }

def leave (s : Search) (node : String) : Search :=
  { s with marks := (node, .done) :: s.marks, path := s.path.dropLast }

/-- Reports the cycle that an edge to `target` closes. -/
def report (s : Search) (target : String) : Search :=
  { s with cycles := s.cycles ++ [s.path.dropWhile (· ≠ target) ++ [target]] }

/-- Follows an edge; `visit` explores a node that was not entered before. -/
def follow (visit : String → Search → Search) (s : Search) (target : String) : Search :=
  match s.mark? target with
  | none => visit target s
  | some .onPath => s.report target
  | some .done => s

end Search

namespace Graph

/-- The targets of the edges from a node. -/
def targets (g : Graph) (node : String) : List String :=
  ((g.edges.find? fun entry => entry.1 = node).map (·.2)).getD []

/-- The nodes that have an entry of their own. -/
def nodes (g : Graph) : List String := g.edges.map (·.1)

/-- Explores a node and what it leads to, with room for `room` nodes on the path. -/
def visit (g : Graph) : (room : Nat) → String → Search → Search
  | 0, _, s => s
  | room + 1, node, s =>
    ((g.targets node).foldl (Search.follow (g.visit room)) (s.enter node)).leave node

/-- All nodes and all targets, as often as they are listed. -/
def vertices (g : Graph) : List String := g.edges.flatMap fun entry => entry.1 :: entry.2

/-- Room for every node and every target on the path. -/
def room (g : Graph) : Nat := g.vertices.length

/-- Explores a node unless it was entered before. -/
def start (g : Graph) (s : Search) (node : String) : Search :=
  if (s.mark? node).isSome then s else g.visit g.room node s

/-- The search through the whole graph, node by node. -/
def search (g : Graph) : Search := g.nodes.foldl g.start {}

/-- One chain for each edge that leads back to the path, in the order of the search. -/
def cycles (g : Graph) : List (List String) := g.search.cycles

end Graph

end Phrasebook

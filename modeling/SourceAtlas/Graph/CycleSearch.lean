import SourceAtlas.Graph.Basic
import SourceAtlas.Graph.Cycle
import Std.Data.HashSet

/-!
# Searching for cycles

A depth-first search from every node in turn. A node is entered once in the whole search, so each
edge is taken once and a dense graph is not searched for every one of its cycles; but every cycle
of the graph shares an edge with one that is found. Main function: `Graph.cycles`.

The search is a machine: `Search` is its state and `Search.step` its transition.
-/

namespace SourceAtlas

/-- The number of cycles that are looked for unless told otherwise. -/
def usualCycleLimit : Nat := 20

/-- The state of the search. -/
structure Search where
  /-- The nodes from the root of the search to the current one. -/
  path : Array String := #[]
  /-- Where each node of the path stands in it. -/
  position : Std.HashMap String Nat := ∅
  /-- The successors that each node of the path has yet to offer, the current node's first. -/
  frontier : List (List String) := []
  /-- The nodes that have been entered. -/
  visited : Std.HashSet String := ∅
  /-- The texts of the cycles found. -/
  keys : Std.HashSet String := ∅
  /-- The cycles found, in order and in canonical form. -/
  found : Array Cycle := #[]

namespace Search

/-- Enough cycles have been found. -/
def isFull (limit : Option Nat) (s : Search) : Bool :=
  limit.any (· ≤ s.found.size)

/-- Makes a node the current one. -/
def enter (adj : Graph.Adjacency) (s : Search) (node : String) : Search :=
  { s with
    path := s.path.push node
    position := s.position.insert node s.path.size
    frontier := adj.getD node [] :: s.frontier
    visited := s.visited.insert node }

/-- Leaves the current node for the one before it. -/
def leave (s : Search) (frontier : List (List String)) : Search :=
  { s with
    path := s.path.pop
    position := s.path.back?.elim s.position s.position.erase
    frontier }

/-- The cycle that closes when the current node leads back to the node at a position. -/
def closedAt (s : Search) (start : Nat) : Cycle :=
  (Cycle.mk (s.path.toList.drop start)).canonical

/-- Records a cycle, unless it has been found before. -/
def record (s : Search) (c : Cycle) : Search :=
  if s.keys.contains c.text then s
  else { s with keys := s.keys.insert c.text, found := s.found.push c }

/-- Looks at one successor of the current node: it closes a cycle, or is entered, or has been
    entered before. -/
def visit (adj : Graph.Adjacency) (s : Search) (successor : String) : Search :=
  match s.position[successor]? with
  | some start => s.record (s.closedAt start)
  | none => if s.visited.contains successor then s else s.enter adj successor

/-- One step. There is none once the path is empty. -/
def step (adj : Graph.Adjacency) (s : Search) : Option Search :=
  match s.frontier with
  | [] => none
  | [] :: frontier => some (s.leave frontier)
  | (successor :: pending) :: frontier =>
    some ({ s with frontier := pending :: frontier }.visit adj successor)

/-- Steps until there is none left or enough cycles have been found; at most `fuel` of them. -/
def run (adj : Graph.Adjacency) (limit : Option Nat) : (fuel : Nat) → Search → Search
  | 0, s => s
  | fuel + 1, s =>
    match s.step adj with
    | none => s
    | some s => if s.isFull limit then s else run adj limit fuel s

/-- Searches from a root, unless it has been entered before or enough cycles have been found. -/
def fromRoot (adj : Graph.Adjacency) (limit : Option Nat) (fuel : Nat) (s : Search)
    (root : String) : Search :=
  if s.isFull limit || s.visited.contains root then s
  else run adj limit fuel (s.enter adj root)

end Search

namespace Graph

variable {α ω : Type}

/-- Enough steps for the search from any root: every step but the last takes an edge or leaves a
    node. -/
def searchFuel (g : Graph α ω) : Nat :=
  g.nodes.size + g.edges.size + 1

/-- The state after the search from every node. -/
def search (g : Graph α ω) (limit : Option Nat) : Search :=
  let adj := g.adjacency
  g.nodeIds.foldl (Search.fromRoot adj limit g.searchFuel) {}

/-- The cycles of a graph, in canonical form and in the order in which they are found; no more than
    `limit`, if there is a limit. -/
def cycles (g : Graph α ω) (limit : Option Nat) : List Cycle :=
  (g.search limit).found.toList

end Graph

end SourceAtlas

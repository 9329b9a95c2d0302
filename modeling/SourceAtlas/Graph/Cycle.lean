import SourceAtlas.Text.CodePoint
import SourceAtlas.Value.Basic

/-!
# Cycles

A cycle is the list of its nodes; the step back from the last node to the first is understood. The
canonical form of a cycle starts at its smallest node. Nodes are compared by code points, where the
characters that stand for halves of surrogate pairs count as these halves (`Text.point`).
-/

namespace SourceAtlas

/-- A closed walk through a graph. -/
structure Cycle where
  nodes : List String
  deriving DecidableEq, Repr

namespace Cycle

/-- The number of nodes. -/
def length (c : Cycle) : Nat := c.nodes.length

/-- The smallest of one text and others, by code points. -/
def least (first : String) (others : List String) : String :=
  others.foldl (fun m s => if Text.precedes s.toList m.toList then s else m) first

/-- The same cycle, started at its smallest node. -/
def canonical (c : Cycle) : Cycle :=
  match c.nodes with
  | [] => ⟨[]⟩
  | first :: others =>
    let start := c.nodes.idxOf (least first others)
    ⟨c.nodes.drop start ++ c.nodes.take start⟩

/-- A cycle in one line, closed by its first node. -/
def text (c : Cycle) : String :=
  match c.nodes with
  | [] => ""
  | first :: _ => " -> ".intercalate (c.nodes ++ [first])

/-- A cycle in a report. -/
def report (c : Cycle) : Value :=
  .record [("nodes", .texts c.nodes), ("path", .text c.text)]

end Cycle

end SourceAtlas

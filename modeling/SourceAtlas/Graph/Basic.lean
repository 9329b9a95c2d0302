import SourceAtlas.Path
import SourceAtlas.Value.Number
import Std.Data.HashMap

/-!
# The dependency graph of files

Nodes are files, named by their paths in canonical spelling, and an edge says that one file depends
on another. Nodes and edges keep the order in which they were first mentioned. Every function that
takes a path takes it in any spelling.

Two indexes say where a node or an edge stands, so that a look-up does not walk the lists. They are
kept by `addNode` and `addEdge`, the only functions that extend a graph:

* a node that is there already stays as it is;
* an edge from a file to itself or to an unknown file is refused;
* an edge that is there already only gains weight.

Labels are texts and weights are whole numbers unless a graph says otherwise.
-/

namespace SourceAtlas

/-- What a label can be. -/
class Label (α : Type) where
  ofText : String → α
  /-- The label counts as missing. -/
  isVoid : α → Bool
  value : α → Value

instance : Label String := ⟨id, String.isEmpty, .text⟩

instance : Label Value := ⟨.text, Value.isVoid, id⟩

/-- What a weight can be. -/
class Weight (ω : Type) where
  one : ω
  /-- The sum of two weights, if they can be added. -/
  add? : ω → ω → Option ω
  value : ω → Value

instance : Weight Int := ⟨1, fun v w => some (v + w), .int⟩

instance : Weight Value := ⟨.int 1, Value.add?, id⟩

/-- A file in a graph. -/
structure Node (α : Type := String) where
  id : String
  label : α
  /-- The tag of the file's language. -/
  language : α
  deriving DecidableEq, Repr

/-- A dependency of one file on another. -/
structure Edge (α : Type := String) (ω : Type := Int) where
  source : String
  target : String
  kind : α
  weight : ω
  deriving DecidableEq, Repr

/-- The dependency graph of a project. -/
structure Graph (α : Type := String) (ω : Type := Int) where
  nodes : Array (Node α) := #[]
  edges : Array (Edge α ω) := #[]
  /-- Where the node with an identifier stands. -/
  nodeIndex : Std.HashMap String Nat := ∅
  /-- Where the edge between two identifiers stands. -/
  edgeIndex : Std.HashMap (String × String) Nat := ∅

namespace Graph

variable {α ω : Type}

/-- The graph without nodes. -/
def empty : Graph α ω := {}

instance : Inhabited (Graph α ω) := ⟨empty⟩

/-- The node for a path. -/
def node? (g : Graph α ω) (path : String) : Option (Node α) :=
  g.nodeIndex[Path.normalize path]?.bind (g.nodes[·]?)

/-- The edge between two paths. -/
def edge? (g : Graph α ω) (source target : String) : Option (Edge α ω) :=
  g.edgeIndex[(Path.normalize source, Path.normalize target)]?.bind (g.edges[·]?)

/-- Whether the graph has a node for a path. -/
def hasNode (g : Graph α ω) (path : String) : Bool :=
  g.nodeIndex.contains (Path.normalize path)

/-- Whether the graph has an edge between two paths. -/
def hasEdge (g : Graph α ω) (source target : String) : Bool :=
  g.edgeIndex.contains (Path.normalize source, Path.normalize target)

/-- Adds a node for a path, unless there is one. A missing label stands for the file's name. -/
def addNode [Label α] (g : Graph α ω) (path : String) (label : α := Label.ofText "")
    (language : α := Label.ofText "unknown") : Graph α ω :=
  let id := Path.normalize path
  if g.nodeIndex.contains id then g
  else
    let label := if Label.isVoid label then Label.ofText (Path.base id) else label
    { g with
      nodes := g.nodes.push { id, label, language }
      nodeIndex := g.nodeIndex.insert id g.nodes.size }

/-- Two identifiers may be joined by an edge: they differ, and both are nodes. -/
def joins (g : Graph α ω) (source target : String) : Bool :=
  source ≠ target && g.nodeIndex.contains source && g.nodeIndex.contains target

/-- Whether `addEdge` takes an edge between two paths. -/
def accepts (g : Graph α ω) (source target : String) : Bool :=
  g.joins (Path.normalize source) (Path.normalize target)

/-- Whether the weight of the edge between two paths, if there is one, can be raised by another
    weight. -/
def canRaise [Weight ω] (g : Graph α ω) (source target : String) (weight : ω) : Bool :=
  (g.edge? source target).all fun e => (Weight.add? e.weight weight).isSome

/-- Adds an edge between two paths. If it is there already, its weight is raised as far as that is
    possible; if the paths are the same or one of them is unknown, the graph stays as it is. -/
def addEdge [Label α] [Weight ω] (g : Graph α ω) (source target : String)
    (kind : α := Label.ofText "import") (weight : ω := Weight.one) : Graph α ω :=
  let source := Path.normalize source
  let target := Path.normalize target
  if g.joins source target then
    match g.edgeIndex[(source, target)]? with
    | some i =>
      { g with
        edges := g.edges.modify i fun e =>
          { e with weight := (Weight.add? e.weight weight).getD e.weight } }
    | none =>
      { g with
        edges := g.edges.push { source, target, kind, weight }
        edgeIndex := g.edgeIndex.insert (source, target) g.edges.size }
  else g

/-- The edge between two paths as `addEdge` leaves it; there is none if it was refused. -/
def addedEdge? [Label α] [Weight ω] (g : Graph α ω) (source target : String)
    (kind : α := Label.ofText "import") (weight : ω := Weight.one) : Option (Edge α ω) :=
  if g.accepts source target then (g.addEdge source target kind weight).edge? source target
  else none

/-- The graph with given nodes and edges, added one after the other. -/
def build [Label α] [Weight ω] (nodes : List (Node α)) (edges : List (Edge α ω)) : Graph α ω :=
  let g := nodes.foldl (fun g n => g.addNode n.id n.label n.language) empty
  edges.foldl (fun g e => g.addEdge e.source e.target e.kind e.weight) g

/-- The identifiers of the nodes, in order. -/
def nodeIds (g : Graph α ω) : List String :=
  g.nodes.toList.map (·.id)

/-- The targets of the edges, by the source of each. -/
abbrev Adjacency := Std.HashMap String (List String)

/-- Each node with the targets of its edges, in the order of the edges. -/
def adjacency (g : Graph α ω) : Adjacency :=
  let nodes := g.nodes.foldl (fun adj n => adj.insert n.id []) (∅ : Adjacency)
  g.edges.foldr (fun e adj => adj.modify e.source (e.target :: ·)) nodes

end Graph

/-! ## In reports -/

variable {α ω : Type} [Label α] [Weight ω]

/-- A node in a report. -/
def Node.report (n : Node α) : Value :=
  .record [("id", .text n.id), ("label", Label.value n.label),
    ("language", Label.value n.language)]

/-- An edge in a report. -/
def Edge.report (e : Edge α ω) : Value :=
  .record [("source", .text e.source), ("target", .text e.target),
    ("kind", Label.value e.kind), ("weight", Weight.value e.weight)]

/-- A graph in a report. -/
def Graph.report (g : Graph α ω) : Value :=
  .record [("nodes", .list (g.nodes.toList.map (·.report))),
    ("edges", .list (g.edges.toList.map (·.report)))]

end SourceAtlas

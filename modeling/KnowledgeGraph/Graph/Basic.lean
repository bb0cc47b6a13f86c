import KnowledgeGraph.Distinct
import KnowledgeGraph.Graph.Edge

/-!
# Graphs

A graph holds nodes under their keys and edges in the order of their making.  The first node
of a key stays: inserting another one with the same key, or the union with a graph that has
one, changes nothing about it.  Nodes can also be put under any key directly, so nothing but a
report says that a node stands under its own.
-/

namespace KnowledgeGraph

/-- A graph whose nodes and edges have kinds and properties. -/
structure Graph where
  /-- The nodes under their keys. -/
  nodes : KeyedMap Node := .empty
  /-- The edges. -/
  edges : List Edge := []
  /-- The version of the schema. -/
  schemaVersion : String := "v1"

namespace Graph

/-- The graph without nodes and edges. -/
def empty : Graph := {}

instance : Inhabited Graph := ⟨empty⟩

/-! ## Building up -/

/-- The graph with a node, unless its key has one already. -/
def insertNode (g : Graph) (n : Node) : Graph := { g with nodes := g.nodes.insertNew n.key n }

/-- The graph with a node under a key, in place of the one that is there. -/
def replaceNode (g : Graph) (key : String) (n : Node) : Graph :=
  { g with nodes := g.nodes.insert key n }

/-- The graph with an edge after the others. -/
def appendEdge (g : Graph) (e : Edge) : Graph := { g with edges := g.edges ++ [e] }

/-- The graph with the nodes of another one under new keys, and its edges after the others. -/
def union (g h : Graph) : Graph :=
  { g with nodes := g.nodes.union h.nodes, edges := g.edges ++ h.edges }

/-! ## Looking up -/

/-- The node of a reference. -/
def node? (g : Graph) (r : Ref) : Option Node := g.nodes.find? r.key

/-- Whether a reference has a node. -/
def contains (g : Graph) (r : Ref) : Bool := g.nodes.contains r.key

/-- Whether there are no nodes and no edges. -/
def isEmpty (g : Graph) : Bool := g.nodes.entries.isEmpty && g.edges.isEmpty

/-- The nodes of a kind, in the order of their keys. -/
def nodesOf (g : Graph) (kind : NodeKind) : List Node := g.nodes.values.filter (·.kind == kind)

/-- The edges of a kind. -/
def edgesOf (g : Graph) (kind : EdgeKind) : List Edge := g.edges.filter (·.kind == kind)

/-- The neighbours of a node, along edges in either direction, each where it comes first. -/
def neighbors (g : Graph) (r : Ref) : List Ref :=
  distinct (g.edges.filterMap (·.otherEnd? r))

instance : BEq Graph where
  beq g h := g.nodes.entries == h.nodes.entries && g.edges == h.edges &&
    g.schemaVersion == h.schemaVersion

/-! ## Fragments -/

/-- Nodes and edges that one record gives. -/
structure Fragment where
  /-- The nodes, in the order of adding. -/
  nodes : List Node
  /-- The edges. -/
  edges : List Edge

/-- The graph of fragments that are added one after the other. -/
def ofFragments (fs : List Fragment) : Graph where
  nodes := (fs.flatMap (·.nodes)).foldl (fun m n => m.insertNew n.key n) .empty
  edges := fs.flatMap (·.edges)

end Graph

end KnowledgeGraph

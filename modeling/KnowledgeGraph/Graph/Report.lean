import KnowledgeGraph.Graph.Basic

/-!
# Reports on graphs

A graph is sound when no two of its nodes have one key and every end of every edge is found
among the keys under which nodes stand.  A report lists the defects, which make a graph
unsound, and further what is merely odd: nodes under a key that is not their own, and too many
nodes without properties.

At most ten ends that are not found are listed one by one, and a last defect counts the
others.
-/

namespace KnowledgeGraph

/-- What can be wrong with a graph. -/
inductive Defect where
  /-- Several nodes have one key. -/
  | duplicateKey (key : String) (count : Nat)
  /-- An end of an edge is not found. -/
  | dangling (index : Nat) (kind : EdgeKind) (side : String) (endpoint : Ref)
  /-- Further ends are not found. -/
  | moreDangling (count : Nat)

/-- What can be odd about a graph. -/
inductive Oddity where
  /-- A node stands under a key that is not its own. -/
  | foreignKey (key stored : String)
  /-- Many nodes have no properties. -/
  | manyBare (bare total : Nat)

/-- The counts of a graph. -/
structure Census where
  /-- The number of nodes. -/
  nodes : Nat
  /-- The number of edges. -/
  edges : Nat
  /-- The number of nodes of each kind that occurs, by its name. -/
  nodesByKind : KeyedMap Nat
  /-- The number of edges of each kind that occurs, by its name. -/
  edgesByKind : KeyedMap Nat
  /-- The number of nodes without properties. -/
  bareNodes : Nat

/-- The share of nodes without properties. -/
def Census.bareShare (s : Census) : Float :=
  if s.nodes = 0 then 0.0 else Float.ofNat s.bareNodes / Float.ofNat s.nodes

/-- What there is to say of a graph. -/
structure Report where
  /-- What is wrong. -/
  defects : List Defect
  /-- What is odd. -/
  oddities : List Oddity
  /-- The counts of the graph. -/
  census : Census

/-- Whether nothing is wrong. -/
def Report.isSound (r : Report) : Bool := r.defects.isEmpty

namespace Graph

/-! ## Nodes -/

/-- The keys of the nodes of a graph, each node's own. -/
def ownKeys (g : Graph) : List String := g.nodes.values.map Node.key

/-- A defect for every key that several nodes have, in the order of the keys. -/
def duplicateKeys (g : Graph) : List Defect :=
  (KeyedMap.tally g.ownKeys).entries.filterMap fun (key, count) =>
    if 1 < count then some (.duplicateKey key count) else none

/-- An oddity for every node that stands under a key that is not its own. -/
def foreignKeys (g : Graph) : List Oddity :=
  g.nodes.entries.filterMap fun (stored, n) =>
    if n.key = stored then none else some (.foreignKey n.key stored)

/-! ## Edges -/

/-- The ends of an edge, each with its side. -/
def endpoints (e : Edge) : List (String × Ref) := [("from", e.source), ("to", e.target)]

/-- A defect for every end of the edges that is not found.  `index` is the place of the first
of the edges. -/
def danglingFrom (g : Graph) : Nat → List Edge → List Defect
  | _, [] => []
  | index, e :: es =>
      (endpoints e).filterMap (fun (side, r) =>
        if g.contains r then none else some (.dangling index e.kind side r))
      ++ danglingFrom g (index + 1) es

/-- A defect for every end that is not found. -/
def danglingEnds (g : Graph) : List Defect := g.danglingFrom 0 g.edges

/-- How many ends that are not found are listed one by one. -/
def danglingLimit : Nat := 10

/-- The first defects, and the number of the others if there are any. -/
def capDangling (defects : List Defect) : List Defect :=
  if danglingLimit < defects.length then
    defects.take danglingLimit ++ [.moreDangling (defects.length - danglingLimit)]
  else defects

/-! ## The report -/

/-- The counts of a graph. -/
def census (g : Graph) : Census where
  nodes := g.nodes.size
  edges := g.edges.length
  nodesByKind := KeyedMap.tally (g.nodes.values.map (·.kind.name))
  edgesByKind := KeyedMap.tally (g.edges.map (·.kind.name))
  bareNodes := (g.nodes.values.filter Node.isBare).length

/-- An oddity if the share of nodes without properties is above 0.30. -/
def bareOddity (s : Census) : List Oddity :=
  if 0.30 < s.bareShare then [.manyBare s.bareNodes s.nodes] else []

/-- The report on a graph. -/
def report (g : Graph) : Report where
  defects := g.duplicateKeys ++ capDangling g.danglingEnds
  oddities := g.foreignKeys ++ bareOddity g.census
  census := g.census

end Graph

end KnowledgeGraph

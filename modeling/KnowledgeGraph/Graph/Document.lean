import KnowledgeGraph.Graph.Basic
import KnowledgeGraph.Json.Printer

/-!
# Graphs in JSON

A graph travels as a document of its schema version, its nodes in the order of their keys and
its edges in their order.  The properties of a node or an edge stand beside its kind and its
ends in one object.  Where a property has the name of one of these, the property gives way.

Nodes and edges can also be written and read with their properties apart
(`Node.write`, `Node.read?`).
-/

namespace KnowledgeGraph

/-- A reference as JSON. -/
def Ref.write (r : Ref) : Json :=
  .object [("type", .string r.kind.name), ("id", .string r.id)]

/-- A node with its properties beside its kind and identifier. -/
def Node.document (n : Node) : Json :=
  .object ((n.properties.insert "type" (.string n.kind.name)).insert "id"
    (.string n.id)).entries

/-- An edge with its properties beside its kind and ends. -/
def Edge.document (e : Edge) : Json :=
  .object (((e.properties.insert "type" (.string e.kind.name)).insert "from"
    e.source.write.canonical).insert "to" e.target.write.canonical).entries

/-- A graph as it travels. -/
def Graph.document (g : Graph) : Json :=
  .object [("graph_schema_version", .string g.schemaVersion),
    ("nodes", .array (g.nodes.values.map Node.document)),
    ("edges", .array (g.edges.map Edge.document))]

/-- The text of a graph as it travels, over several lines or on one. -/
def Graph.documentText (g : Graph) (overLines : Bool) : String :=
  if overLines then g.document.pretty else g.document.compact

/-! ## Nodes and edges by themselves -/

/-- A node as JSON. -/
def Node.write (n : Node) : Json :=
  .object [("type", .string n.kind.name), ("id", .string n.id),
    ("properties", .object n.properties.entries)]

/-- An edge as JSON. -/
def Edge.write (e : Edge) : Json :=
  .object [("type", .string e.kind.name), ("from", e.source.write),
    ("to", e.target.write), ("properties", .object e.properties.entries)]

/-- A name, which may also be given as an object with that name and `null`. -/
def Json.name? : Json → Option String
  | .string s => some s
  | .object [(s, .null)] => some s
  | _ => none

/-- The values of the given names: the members of an object, or the items of a list of the
same length. -/
def Json.parts? (names : List String) : Json → Option (List Json)
  | .array items => if items.length = names.length then some items else none
  | .object ms => names.mapM fun n => (Json.object ms).member? n
  | _ => none

/-- Reads the kind of a node. -/
def NodeKind.read? (j : Json) : Option NodeKind := j.name?.bind NodeKind.ofName?

/-- Reads the kind of an edge. -/
def EdgeKind.read? (j : Json) : Option EdgeKind := j.name?.bind EdgeKind.ofName?

/-- Reads a reference. -/
def Ref.read? (j : Json) : Option Ref := do
  match ← j.parts? ["type", "id"] with
  | [t, .string id] => return ⟨← NodeKind.read? t, id⟩
  | _ => none

/-- Reads properties. -/
def readProperties? : Json → Option PropertyMap
  | .object ms => some (.ofList ms)
  | _ => none

/-- Reads a node. -/
def Node.read? (j : Json) : Option Node := do
  match ← j.parts? ["type", "id", "properties"] with
  | [t, .string id, ps] => return ⟨← NodeKind.read? t, id, ← readProperties? ps⟩
  | _ => none

/-- Reads an edge. -/
def Edge.read? (j : Json) : Option Edge := do
  match ← j.parts? ["type", "from", "to", "properties"] with
  | [t, s, r, ps] =>
      return ⟨← EdgeKind.read? t, ← Ref.read? s, ← Ref.read? r, ← readProperties? ps⟩
  | _ => none

end KnowledgeGraph

import KnowledgeGraph.Graph.Basic
import KnowledgeGraph.Identity

/-!
# Parts of graphs

Nodes and edges that records of every family give alike.  So an entity or a state that occurs
in several families is one node in the union of their graphs.
-/

namespace KnowledgeGraph

open Text (normalize presence?)

/-- The node of a mentioned entity, if the mention identifies one. -/
def Mention.node? (m : Mention) : Option Node :=
  if m.identifiesEntity then
    some (({ kind := .entity, id := m.identifier : Node }
      |>.setPresent "name" (some (.string m.shownName))
      |>.set "entity_type" (.string m.typeLabel)
      |>.setPresent "kb_id" (m.knownId?.map .string)))
  else none

/-- A span as a list of its two ends. -/
def spanValue (span : Nat × Nat) : Json := .array [.ofNat span.1, .ofNat span.2]

/-- The edge from a record to an entity that it mentions. -/
def Mention.edge (m : Mention) (record entity : Ref) : Edge :=
  { kind := .mentionsEntity, source := record, target := entity : Edge }
    |>.setWeight 1.0
    |>.set "entity_type" (.string m.typeLabel)
    |>.setPresent "span" (m.span.map spanValue)
    |>.setPresent "confidence" (m.confidence.map .ofFloat)

/-- The mentions that identify an entity, each with its node. -/
def mentionedEntities (ms : List Mention) : List (Node × Mention) :=
  ms.filterMap fun m => m.node?.map (·, m)

/-- The edges from a record to the entities that it mentions. -/
def entityEdges (record : Ref) (entities : List (Node × Mention)) : List Edge :=
  entities.map fun (n, m) => m.edge record n.ref

/-- The node of a state, named by its code in upper case. -/
def stateOf? (code : Option String) : Option Node :=
  (code.bind presence?).map fun code =>
    let code := Text.upper code
    { kind := .state, id := code : Node }.set "code" (.string code)

/-- A node that is named by the normal form of a label and carries the label. -/
def labelNode (kind : NodeKind) (property label : String) : Node :=
  { kind, id := normalize label : Node }.set property (.string label)

/-- An edge of weight 1. -/
def plainEdge (kind : EdgeKind) (source target : Ref) : Edge :=
  { kind, source, target : Edge }.setWeight 1.0

/-- The texts of a list that are not blank, trimmed. -/
def presentTexts (ss : List String) : List String := ss.filterMap presence?

/-- The texts of a list that are not blank, as a value, if there are any. -/
def presentList? (ss : List String) : Option Json :=
  match presentTexts ss with
  | [] => none
  | ts => some (.ofStrings ts)

end KnowledgeGraph

import KnowledgeGraph.Graph.Basic
import KnowledgeGraph.Text.Normal
import KnowledgeGraph.Time.FreeText

/-!
# The part of a graph around a topic

The posts of a topic, together with every node next to one of them, and the edges between the
nodes that are kept.  A period selects among the posts by the time that their nodes carry.  A
post without a time that can be understood lies in no period.

One step is taken from the selected posts and no more, so a post of the topic outside the
period does not come back through the node of the topic.
-/

namespace KnowledgeGraph.Graph

/-- The reference to the topic that a text names. -/
def topicRef (topic : String) : Ref := ⟨.topic, Text.normalize topic⟩

/-- Whether the node of a post carries a time in a period. -/
def isInPeriod (g : Graph) (period : Period) (post : Ref) : Bool :=
  (((g.node? post).bind (·.propertyText? "timestamp")).bind Time.ofText?).any period.contains

/-- The selected posts of a topic. -/
def topicPosts (g : Graph) (topic : Ref) (period : Option Period) : List Ref :=
  distinct (((g.edgesOf .hasTopic).filter fun e =>
    e.target == topic && e.source.kind == .post).map (·.source)
    |>.filter fun post => period.all fun p => g.isInPeriod p post)

/-- The node that an edge adds to those next to the posts. -/
def reached? (posts : List Ref) (e : Edge) : Option Ref :=
  if e.source ∈ posts then some e.target
  else if e.target ∈ posts then some e.source
  else none

/-- The posts and the nodes next to them. -/
def around (g : Graph) (posts : List Ref) : List Ref :=
  distinct (posts ++ g.edges.filterMap (reached? posts))

/-- The nodes of the given references, and the edges between them. -/
def restrict (g : Graph) (refs : List Ref) : Graph where
  nodes := (refs.filterMap g.node?).foldl (fun m n => m.insertNew n.key n) .empty
  edges := g.edges.filter fun e => e.source ∈ refs && e.target ∈ refs

/-- The part of a graph around a topic.  It is empty if the topic has no node or no post is
selected. -/
def aroundTopic (g : Graph) (topic : String) (period : Option Period) : Graph :=
  let ref := topicRef topic
  if ref.id.isEmpty || !g.contains ref then empty
  else match g.topicPosts ref period with
    | [] => empty
    | posts => g.restrict (g.around posts)

end KnowledgeGraph.Graph

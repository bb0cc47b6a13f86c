import KnowledgeGraph.Graph.Node

/-!
# Edges

An edge leads from one node to another.  It has a kind and properties, and it names its ends
by reference, so an edge can lead to a node that is not there.  The weight of an edge is its
property `weight`.
-/

namespace KnowledgeGraph

/-- The kinds of edges. -/
inductive EdgeKind where
  /-- From a post to a keyword. -/
  | mentionsKeyword
  /-- From a record to an entity. -/
  | mentionsEntity
  /-- From a post to its topic. -/
  | hasTopic
  /-- From a post to the name of a sentiment. -/
  | hasSentiment
  /-- From a post to its author. -/
  | authoredBy
  /-- From a post to its community. -/
  | inSubreddit
  /-- Between keywords of one post. -/
  | coOccurs
  /-- From market data to a state. -/
  | inState
  /-- From market data to a segment. -/
  | hasSegment
  /-- From a policy to a state. -/
  | appliesToState
  /-- From a policy to its type. -/
  | hasType
  /-- From a policy to a key point. -/
  | hasKeypoint
  /-- Between entities that a policy relates. -/
  | policyRelation
deriving DecidableEq, Repr

namespace EdgeKind

/-- The name of a kind. -/
def name : EdgeKind → String
  | .mentionsKeyword => "MENTIONS_KEYWORD"
  | .mentionsEntity => "MENTIONS_ENTITY"
  | .hasTopic => "HAS_TOPIC"
  | .hasSentiment => "HAS_SENTIMENT"
  | .authoredBy => "AUTHORED_BY"
  | .inSubreddit => "IN_SUBREDDIT"
  | .coOccurs => "CO_OCCURS"
  | .inState => "IN_STATE"
  | .hasSegment => "HAS_SEGMENT"
  | .appliesToState => "APPLIES_TO_STATE"
  | .hasType => "HAS_TYPE"
  | .hasKeypoint => "HAS_KEYPOINT"
  | .policyRelation => "POLICY_RELATION"

/-- The kinds in their order. -/
def all : List EdgeKind :=
  [.mentionsKeyword, .mentionsEntity, .hasTopic, .hasSentiment, .authoredBy, .inSubreddit,
    .coOccurs, .inState, .hasSegment, .appliesToState, .hasType, .hasKeypoint,
    .policyRelation]

/-- The place of a kind in the order. -/
def rank (kind : EdgeKind) : Nat := all.idxOf kind

/-- The kind of a name. -/
def ofName? (s : String) : Option EdgeKind := all.find? (·.name == s)

/-- Kinds in their order. -/
def sort (kinds : List EdgeKind) : List EdgeKind := kinds.mergeSort fun j k => j.rank ≤ k.rank

end EdgeKind

/-- An edge. -/
structure Edge where
  /-- The kind. -/
  kind : EdgeKind
  /-- The node that the edge starts from. -/
  source : Ref
  /-- The node that the edge leads to. -/
  target : Ref
  /-- The properties. -/
  properties : PropertyMap := .empty

namespace Edge

/-- Sets a property. -/
def set (e : Edge) (name : String) (value : Json) : Edge :=
  { e with properties := e.properties.insert name value }

/-- Sets a property if there is a value other than `null`. -/
def setPresent (e : Edge) (name : String) (value : Option Json) : Edge :=
  match value.filter (!·.isNull) with
  | some v => e.set name v
  | none => e

/-- Sets the weight. -/
def setWeight (e : Edge) (weight : Float) : Edge := e.set "weight" (.ofFloat weight)

/-- The weight, if it is a number. -/
def weight? (e : Edge) : Option Float := (e.properties.find? "weight").bind Json.number?

/-- Whether a node is an end of an edge. -/
def hasEnd (e : Edge) (r : Ref) : Bool := e.source == r || e.target == r

/-- The other end of an edge, seen from a node that is one of its ends. -/
def otherEnd? (e : Edge) (r : Ref) : Option Ref :=
  if e.source = r then some e.target else if e.target = r then some e.source else none

instance : BEq Edge where
  beq d e := d.kind == e.kind && d.source == e.source && d.target == e.target &&
    d.properties.entries == e.properties.entries

end Edge

end KnowledgeGraph

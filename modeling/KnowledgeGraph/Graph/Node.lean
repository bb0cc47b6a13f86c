import KnowledgeGraph.Json.Basic
import KnowledgeGraph.Text.Words

/-!
# Nodes

A node has a kind, an identifier and properties.  Kind and identifier together are its
reference, and both with a colon between them are its key.  Two nodes with one key are the
same node.
-/

namespace KnowledgeGraph

/-- The kinds of nodes. -/
inductive NodeKind where
  /-- A post of a social network. -/
  | post
  /-- A keyword in a language. -/
  | keyword
  /-- An entity that is mentioned. -/
  | entity
  /-- A topic of posts. -/
  | topic
  /-- A name of a sentiment. -/
  | sentimentTag
  /-- An author of posts. -/
  | user
  /-- A community that posts are sent to. -/
  | subreddit
  /-- A point of market data. -/
  | marketData
  /-- A state or region. -/
  | state
  /-- A segment of a market. -/
  | segment
  /-- A document of policy. -/
  | policy
  /-- A type of policy. -/
  | policyType
  /-- A key point of a policy. -/
  | keyPoint
deriving DecidableEq, Repr

namespace NodeKind

/-- The name of a kind. -/
def name : NodeKind → String
  | .post => "Post"
  | .keyword => "Keyword"
  | .entity => "Entity"
  | .topic => "Topic"
  | .sentimentTag => "SentimentTag"
  | .user => "User"
  | .subreddit => "Subreddit"
  | .marketData => "MarketData"
  | .state => "State"
  | .segment => "Segment"
  | .policy => "Policy"
  | .policyType => "PolicyType"
  | .keyPoint => "KeyPoint"

/-- The kinds in their order. -/
def all : List NodeKind :=
  [.post, .keyword, .entity, .topic, .sentimentTag, .user, .subreddit, .marketData, .state,
    .segment, .policy, .policyType, .keyPoint]

/-- The place of a kind in the order. -/
def rank (kind : NodeKind) : Nat := all.idxOf kind

/-- The kind of a name. -/
def ofName? (s : String) : Option NodeKind := all.find? (·.name == s)

end NodeKind

/-- Properties of a node or an edge. -/
abbrev PropertyMap := KeyedMap Json

/-- A reference to a node. -/
structure Ref where
  /-- The kind of the node. -/
  kind : NodeKind
  /-- The identifier of the node. -/
  id : String
deriving DecidableEq, Repr

namespace Ref

/-- The key of a node. -/
def key (r : Ref) : String := r.kind.name ++ ":" ++ r.id

/-- References order by kind first and by identifier next. -/
def le (r s : Ref) : Bool :=
  r.kind.rank < s.kind.rank || (r.kind == s.kind && r.id ≤ s.id)

/-- References in their order. -/
def sort (rs : List Ref) : List Ref := rs.mergeSort le

end Ref

/-- A node. -/
structure Node where
  /-- The kind. -/
  kind : NodeKind
  /-- The identifier. -/
  id : String
  /-- The properties. -/
  properties : PropertyMap := .empty

namespace Node

/-- The reference to a node. -/
def ref (n : Node) : Ref := ⟨n.kind, n.id⟩

/-- The key of a node. -/
def key (n : Node) : String := n.ref.key

/-- Sets a property. -/
def set (n : Node) (name : String) (value : Json) : Node :=
  { n with properties := n.properties.insert name value }

/-- Whether a value is worth a property: not `null` and not a blank text. -/
def isPresent : Json → Bool
  | .null => false
  | .string s => (Text.presence? s).isSome
  | _ => true

/-- Sets a property if there is a value and it is worth one. -/
def setPresent (n : Node) (name : String) (value : Option Json) : Node :=
  match value.filter isPresent with
  | some v => n.set name v
  | none => n

/-- Whether no property has a value. -/
def isBare (n : Node) : Bool := n.properties.values.all Json.isNull

/-- The text of a property that is one. -/
def propertyText? (n : Node) (name : String) : Option String :=
  (n.properties.find? name).bind Json.string?

instance : BEq Node where
  beq m n := m.ref == n.ref && m.properties.entries == n.properties.entries

end Node

end KnowledgeGraph

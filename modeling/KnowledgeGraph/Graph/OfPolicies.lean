import KnowledgeGraph.Graph.Parts
import KnowledgeGraph.Record.PolicyDocument
import KnowledgeGraph.Relation.Verb
import KnowledgeGraph.Time.FreeText
import KnowledgeGraph.Time.Written

/-!
# Graphs of policies

A document of policy gives a node for itself, with edges to its state, its type, its key points
and the entities it mentions.  Its statements are edges between entities.

The ends of a statement are literals.  A literal stands for the first entity of the same
document with a name of the same normal form, where a mention is named by its text and by its
usual name.  A literal that no entity answers to becomes an entity of its own, of unknown type.
It then answers to later literals of the document.
-/

namespace KnowledgeGraph

open KnowledgeGraph.Graph (Fragment)
open Text (normalize presence?)

/-! ## Literals -/

/-- The entities of a document by the normal forms of their names. -/
abbrev NameIndex := KeyedMap Ref

/-- The index of the entities that a document mentions.  The first entity of a name stays. -/
def nameIndex (entities : List (Node × Mention)) : NameIndex :=
  (entities.flatMap fun (n, m) =>
    ([some m.text, m.canonicalName].map Text.normalize?).filterMap fun name =>
      if name.isEmpty then none else some (name, n.ref)).foldl
    (fun index e => index.insertNew e.1 e.2) .empty

/-- The entity that a literal stands for by itself. -/
def literalNode (literal : String) : Node :=
  let mention : Mention := { text := literal, canonicalName := some literal }
  { kind := .entity, id := mention.identifier : Node }
    |>.set "name" (.string literal)
    |>.set "entity_type" (.string Mention.unknownType)
    |>.set "adhoc" (.bool true)

/-- What resolving has found so far: the index and the new nodes. -/
structure Resolution where
  /-- The entities by name. -/
  index : NameIndex
  /-- The entities that literals stand for by themselves. -/
  created : List Node

/-- The entity that a literal stands for, and what has been found with it. -/
def Resolution.resolve (s : Resolution) (literal : String) : Ref × Resolution :=
  let key := normalize literal
  match s.index.find? key with
  | some r => (r, s)
  | none =>
      let n := literalNode literal
      (n.ref, ⟨s.index.insert key n.ref, s.created ++ [n]⟩)

/-! ## Statements -/

namespace Statement

/-- The date of a statement: the date of its instant, or the text if that cannot be
understood. -/
def dateText? (t : Statement) : Option String :=
  ((Time.ofOptionalText? t.date).map (·.writtenDate)) <|> t.date.bind presence?

/-- The edge of a statement between two entities. -/
def edge (t : Statement) (docId : String) (source target : Ref) : Edge :=
  let a := Relation.annotate t.predicate
  plainEdge .policyRelation source target
    |>.set "predicate" (.string a.canonical)
    |>.set "predicate_norm" (.string a.canonical)
    |>.setPresent "predicate_raw" ((presence? a.raw).map .string)
    |>.set "relation_class" (.string a.relationClass.name)
    |>.setPresent "evidence" ((t.evidence.bind presence?).map .string)
    |>.setPresent "confidence" (t.confidence.map .ofFloat)
    |>.setPresent "date" (t.dateText?.map .string)
    |>.set "policy_id" (.string docId)

/-- The two literals of a statement, if neither is blank. -/
def ends? (t : Statement) : Option (String × String) := do
  return (← presence? t.subject, ← presence? t.object)

end Statement

/-- The edges of statements, resolving their ends in order, and what has been found. -/
def relationEdges (docId : String) : Resolution → List Statement → List Edge × Resolution
  | s, [] => ([], s)
  | s, t :: ts =>
      match t.ends? with
      | none => relationEdges docId s ts
      | some (subject, object) =>
          let (source, s) := s.resolve subject
          let (target, s) := s.resolve object
          let (edges, s) := relationEdges docId s ts
          (t.edge docId source target :: edges, s)

/-! ## Documents -/

/-- The node of a key point. -/
def keypointNode (text : String) : Node :=
  { kind := .keyPoint, id := keypointIdentifier text : Node }
    |>.set "text" (.string text)
    |>.set "normalized" (.string (normalize text))

/-- Edges to key points, numbered from `order` on. -/
def keypointEdges (policy : Ref) : Nat → List Ref → List Edge
  | _, [] => []
  | order, r :: rs =>
      (plainEdge .hasKeypoint policy r).set "order" (.ofNat order) ::
        keypointEdges policy (order + 1) rs

/-- A time of a document as a value. -/
def timeValue? (s : Option String) : Option Json :=
  (Time.ofOptionalText? s).map fun t => .string t.written

namespace PolicyDocument

/-- The node of the document. -/
def policyNode (r : PolicyDocument) (docId : String) (state : Option Node) (keypoints : Nat) :
    Node :=
  { kind := .policy, id := docId : Node }
    |>.setPresent "title" ((r.title.bind presence?).map .string)
    |>.setPresent "status" ((r.status.bind presence?).map fun s => .string (Text.lower s))
    |>.setPresent "published_at" (timeValue? r.publishedAt)
    |>.setPresent "effective_at" (timeValue? r.effectiveAt)
    |>.setPresent "summary" ((r.summary.bind presence?).map .string)
    |>.setPresent "source" ((r.source.bind presence?).map .string)
    |>.setPresent "state" (state.map fun n => .string n.id)
    |>.setPresent "policy_type" ((r.policyType.bind presence?).map .string)
    |>.set "keypoint_count" (.ofNat keypoints)

/-- What a document gives to a graph. -/
def fragment? (r : PolicyDocument) : Option Fragment :=
  (presence? r.docId).map fun docId =>
    let state := stateOf? r.state
    let policyType := (r.policyType.bind presence?).map (labelNode .policyType "label")
    let keypointNodes := (presentTexts r.keyPoints).map keypointNode
    let keypoints := distinct (keypointNodes.map Node.ref)
    let entities := mentionedEntities r.entities
    let policy := r.policyNode docId state keypoints.length
    let (relations, found) := relationEdges docId ⟨nameIndex entities, []⟩ r.relations
    { nodes := state.toList ++ policyType.toList ++ keypointNodes ++ entities.map (·.1) ++
        [policy] ++ found.created
      edges := (state.map fun n => plainEdge .appliesToState policy.ref n.ref).toList ++
        (policyType.map fun n => plainEdge .hasType policy.ref n.ref).toList ++
        keypointEdges policy.ref 1 keypoints ++
        entityEdges policy.ref entities ++ relations }

end PolicyDocument

/-- The graph of policies. -/
def Graph.ofPolicies (rs : List PolicyDocument) : Graph :=
  .ofFragments (rs.filterMap PolicyDocument.fragment?)

end KnowledgeGraph

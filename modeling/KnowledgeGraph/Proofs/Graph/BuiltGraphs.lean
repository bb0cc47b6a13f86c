import KnowledgeGraph.Proofs.Graph.Corpus
import KnowledgeGraph.Proofs.Graph.Document

/-!
# Documents of built graphs

`Graph.IsBuilt` says what a graph can be built from: records of one family, two built graphs, or a
topic of a built graph.  No record sets a property of a structural name, and neither unions nor the
parts around topics set any.  So built graphs hide nothing (`IsBuilt.hidesNothing`), and two of them
are as equal as their documents (`IsBuilt.eq_of_document`).
-/

namespace KnowledgeGraph

open KnowledgeGraph.Graph (Fragment)

/-! ## Setting properties -/

theorem Node.hidesNothing_mk (kind : NodeKind) (id : String) :
    HidesNothing { kind, id : Node } := fun _ _ => rfl

/-- A property of another name does not touch the structural ones. -/
theorem Node.hidesNothing_set {n : Node} {name : String} {v : Json}
    (other : name ∉ structuralNames) : (n.set name v).HidesNothing ↔ n.HidesNothing := by
  refine forall₂_congr fun k structural => ?_
  have ne : k ≠ name := fun eq => other (eq ▸ structural)
  rw [find?_set, if_neg ne]

theorem Node.hidesNothing_setPresent {n : Node} {name : String} {o : Option Json}
    (other : name ∉ structuralNames) : (n.setPresent name o).HidesNothing ↔ n.HidesNothing := by
  rcases setPresent_eq n name o with ⟨v, -, -, eq⟩ | eq <;> rw [eq]
  exact hidesNothing_set other

theorem Edge.hidesNothing_mk (kind : EdgeKind) (source target : Ref) :
    HidesNothing { kind, source, target : Edge } := fun _ _ => rfl

/-- A property of another name does not touch the structural ones. -/
theorem Edge.hidesNothing_set {e : Edge} {name : String} {v : Json}
    (other : name ∉ structuralNames) : (e.set name v).HidesNothing ↔ e.HidesNothing := by
  refine forall₂_congr fun k structural => ?_
  have ne : k ≠ name := fun eq => other (eq ▸ structural)
  rw [find?_set, if_neg ne]

theorem Edge.hidesNothing_setPresent {e : Edge} {name : String} {o : Option Json}
    (other : name ∉ structuralNames) : (e.setPresent name o).HidesNothing ↔ e.HidesNothing := by
  rcases setPresent_eq e name o with ⟨v, eq⟩ | eq <;> rw [eq]
  exact hidesNothing_set other

theorem Edge.hidesNothing_setWeight {e : Edge} {w : Float} :
    (e.setWeight w).HidesNothing ↔ e.HidesNothing := hidesNothing_set (by decide)

/-! ## Nodes and edges that records share -/

theorem hidesNothing_labelNode {kind : NodeKind} {property label : String}
    (other : property ∉ Node.structuralNames) : (labelNode kind property label).HidesNothing :=
  (Node.hidesNothing_set other).2 (Node.hidesNothing_mk _ _)

theorem hidesNothing_of_stateOf? {code : Option String} {n : Node} (h : stateOf? code = some n) :
    n.HidesNothing := by
  simp only [stateOf?, Option.map_eq_some_iff] at h
  obtain ⟨code, -, rfl⟩ := h
  exact (Node.hidesNothing_set (by decide)).2 (Node.hidesNothing_mk _ _)

theorem Mention.hidesNothing_of_node? {m : Mention} {n : Node} (h : m.node? = some n) :
    n.HidesNothing := by
  unfold Mention.node? at h
  split at h
  · obtain rfl := Option.some.inj h
    simp (disch := decide) only [Node.hidesNothing_set, Node.hidesNothing_setPresent,
      Node.hidesNothing_mk]
  · cases h

theorem Mention.hidesNothing_edge (m : Mention) (record entity : Ref) :
    (m.edge record entity).HidesNothing := by
  simp (disch := decide) only [Mention.edge, Edge.hidesNothing_set, Edge.hidesNothing_setPresent,
    Edge.hidesNothing_setWeight, Edge.hidesNothing_mk]

theorem hidesNothing_of_mem_entityEdges {record : Ref} {entities : List (Node × Mention)} {e : Edge}
    (he : e ∈ entityEdges record entities) : e.HidesNothing := by
  obtain ⟨⟨n, m⟩, -, rfl⟩ := List.mem_map.1 he
  exact m.hidesNothing_edge _ _

theorem hidesNothing_plainEdge (kind : EdgeKind) (source target : Ref) :
    (plainEdge kind source target).HidesNothing :=
  Edge.hidesNothing_setWeight.2 (Edge.hidesNothing_mk _ _ _)

/-- An edge to something that a record may name. -/
theorem hidesNothing_of_mem_toList {α : Type} {o : Option α} {kind : EdgeKind} {source : Ref}
    {target : α → Ref} {e : Edge}
    (he : e ∈ (o.map fun a => plainEdge kind source (target a)).toList) : e.HidesNothing := by
  obtain ⟨a, -, rfl⟩ := mem_namedEdge.1 he
  exact hidesNothing_plainEdge _ _ _

/-! ## Fragments -/

/-- No property of a node or an edge of the fragment gives way in a document. -/
structure Graph.Fragment.HidesNothing (f : Fragment) : Prop where
  /-- No property of a node gives way. -/
  nodes : ∀ n ∈ f.nodes, n.HidesNothing
  /-- No property of an edge gives way. -/
  edges : ∀ e ∈ f.edges, e.HidesNothing

namespace PlannedPost

variable {settings : Settings} {p : Post} {plan : PlannedPost} {w : Weighting}

theorem NodeOf.hidesNothing {id : String} {n : Node} (h : NodeOf settings p id n) :
    n.HidesNothing := by
  cases h with
  | keyword s _ =>
    simp (disch := decide) only [keywordNode, Node.hidesNothing_set, Node.hidesNothing_mk]
  | entity m n _ node => exact Mention.hidesNothing_of_node? node
  | topic label _ => exact hidesNothing_labelNode (by decide)
  | sentiment tag _ => exact hidesNothing_labelNode (by decide)
  | user name _ =>
    exact (Node.hidesNothing_setPresent (by decide)).2 (hidesNothing_labelNode (by decide))
  | subreddit name _ => exact hidesNothing_labelNode (by decide)
  | post =>
    simp (disch := decide) only [Post.postNode, Node.hidesNothing_set,
      Node.hidesNothing_setPresent, Node.hidesNothing_mk]

theorem hidesNothing_keywordEdge (k : KeywordUse) : (plan.keywordEdge w k).HidesNothing := by
  unfold keywordEdge
  cases w.byRarity <;> cases w.decay <;>
    simp (disch := decide) [Edge.hidesNothing_set, Edge.hidesNothing_setWeight,
      Edge.hidesNothing_mk]

theorem hidesNothing_sentimentEdge (tag : Ref) : (plan.sentimentEdge tag).HidesNothing :=
  (Edge.hidesNothing_setPresent (by decide)).2 (hidesNothing_plainEdge _ _ _)

theorem hidesNothing_pairEdge (pair : KeywordUse × KeywordUse) :
    (plan.pairEdge w pair).HidesNothing := by
  simp (disch := decide) only [pairEdge, Edge.hidesNothing_set, hidesNothing_plainEdge]

/-- What a planned post gives hides nothing. -/
theorem Plans.hidesNothing (h : Plans settings p plan) (w : Weighting) :
    (plan.fragment w).HidesNothing := by
  refine ⟨fun n mem => (h.nodeOf mem).hidesNothing, fun e he => ?_⟩
  simp only [fragment, edges, List.mem_append] at he
  rcases he with (((((keyword | entity) | topic) | sentiment) | user) | community) | pairs
  · obtain ⟨k, -, rfl⟩ := List.mem_map.1 keyword
    exact hidesNothing_keywordEdge k
  · exact hidesNothing_of_mem_entityEdges entity
  · exact hidesNothing_of_mem_toList topic
  · obtain ⟨tag, -, rfl⟩ := List.mem_map.1 sentiment
    exact hidesNothing_sentimentEdge tag
  · exact hidesNothing_of_mem_toList user
  · exact hidesNothing_of_mem_toList community
  · obtain ⟨pair, -, rfl⟩ := List.mem_map.1 pairs
    exact hidesNothing_pairEdge pair

end PlannedPost

namespace MarketPoint

theorem NodeOf.hidesNothing {r : MarketPoint} {n : Node} (h : NodeOf r n) : n.HidesNothing := by
  cases h with
  | state n state => exact hidesNothing_of_stateOf? state
  | segment label _ => exact hidesNothing_labelNode (by decide)
  | entity m n _ node => exact Mention.hidesNothing_of_node? node
  | data statId state segment =>
    simp (disch := decide) only [dataNode, Node.hidesNothing_setPresent, Node.hidesNothing_mk]

/-- What a point of market data gives hides nothing. -/
theorem hidesNothing_of_fragment? {r : MarketPoint} {f : Fragment} (h : r.fragment? = some f) :
    f.HidesNothing := by
  refine ⟨fun n mem => (nodeOf_of_fragment? h mem).hidesNothing, fun e he => ?_⟩
  simp only [fragment?, Option.map_eq_some_iff] at h
  obtain ⟨statId, -, rfl⟩ := h
  simp only [List.mem_append] at he
  rcases he with (state | segment) | entity
  · exact hidesNothing_of_mem_toList state
  · exact hidesNothing_of_mem_toList segment
  · exact hidesNothing_of_mem_entityEdges entity

end MarketPoint

namespace PolicyDocument

theorem NodeOf.hidesNothing {r : PolicyDocument} {n : Node} (h : NodeOf r n) :
    n.HidesNothing := by
  cases h with
  | state n state => exact hidesNothing_of_stateOf? state
  | policyType label _ => exact hidesNothing_labelNode (by decide)
  | keypoint text _ =>
    simp (disch := decide) only [keypointNode, Node.hidesNothing_set, Node.hidesNothing_mk]
  | entity m n _ node => exact Mention.hidesNothing_of_node? node
  | policy docId state keypoints =>
    simp (disch := decide) only [policyNode, Node.hidesNothing_set, Node.hidesNothing_setPresent,
      Node.hidesNothing_mk]
  | literal literal =>
    simp (disch := decide) only [literalNode, Node.hidesNothing_set, Node.hidesNothing_mk]

theorem hidesNothing_of_mem_keypointEdges {policy : Ref} {rs : List Ref} {order : Nat} {e : Edge}
    (he : e ∈ keypointEdges policy order rs) : e.HidesNothing := by
  induction rs generalizing order with
  | nil => cases he
  | cons r rs ih =>
    rcases List.mem_cons.1 he with rfl | he
    · exact (Edge.hidesNothing_set (by decide)).2 (hidesNothing_plainEdge _ _ _)
    · exact ih he

theorem hidesNothing_statementEdge (t : Statement) (docId : String) (source target : Ref) :
    (t.edge docId source target).HidesNothing := by
  simp (disch := decide) only [Statement.edge, Edge.hidesNothing_set, Edge.hidesNothing_setPresent,
    hidesNothing_plainEdge]

theorem hidesNothing_of_mem_relationEdges {docId : String} {s : Resolution} {ts : List Statement}
    {e : Edge} (he : e ∈ (relationEdges docId s ts).1) : e.HidesNothing := by
  induction ts generalizing s with
  | nil => cases he
  | cons t ts ih =>
    cases ends : t.ends? with
    | none =>
      simp only [relationEdges, ends] at he
      exact ih he
    | some literals =>
      simp only [relationEdges, ends] at he
      rcases List.mem_cons.1 he with rfl | he
      · exact hidesNothing_statementEdge t docId _ _
      · exact ih he

/-- What a document of policy gives hides nothing. -/
theorem hidesNothing_of_fragment? {r : PolicyDocument} {f : Fragment} (h : r.fragment? = some f) :
    f.HidesNothing := by
  refine ⟨fun n mem => (nodeOf_of_fragment? h mem).hidesNothing, fun e he => ?_⟩
  simp only [fragment?, Option.map_eq_some_iff] at h
  obtain ⟨docId, -, rfl⟩ := h
  simp only [List.mem_append] at he
  rcases he with (((state | policyType) | keypoint) | entity) | statement
  · exact hidesNothing_of_mem_toList state
  · exact hidesNothing_of_mem_toList policyType
  · exact hidesNothing_of_mem_keypointEdges keypoint
  · exact hidesNothing_of_mem_entityEdges entity
  · exact hidesNothing_of_mem_relationEdges statement

end PolicyDocument

/-! ## Built graphs -/

namespace Graph

/-- The graphs that are built from records, whatever the records and the settings. -/
inductive IsBuilt : Graph → Prop where
  /-- A graph of posts. -/
  | ofPosts (now : Instant) (settings : Settings) (posts : List Post) :
      IsBuilt (Graph.ofPosts now settings posts)
  /-- A graph of market data. -/
  | ofMarket (rs : List MarketPoint) : IsBuilt (Graph.ofMarket rs)
  /-- A graph of policies. -/
  | ofPolicies (rs : List PolicyDocument) : IsBuilt (Graph.ofPolicies rs)
  /-- The union of two built graphs. -/
  | union {g h : Graph} : IsBuilt g → IsBuilt h → IsBuilt (g.union h)
  /-- The part of a built graph around a topic. -/
  | aroundTopic {g : Graph} (topic : String) (period : Option Period) :
      IsBuilt g → IsBuilt (g.aroundTopic topic period)

/-- Fragments that hide nothing make a graph that hides nothing. -/
theorem hidesNothing_ofFragments {fs : List Fragment} (h : ∀ f ∈ fs, f.HidesNothing) :
    (ofFragments fs).HidesNothing := by
  constructor
  · intro n mem
    obtain ⟨f, hf, mem⟩ := mem_of_mem_ofFragments mem
    exact (h f hf).nodes n mem
  · intro e he
    obtain ⟨f, hf, he⟩ := List.mem_flatMap.1 he
    exact (h f hf).edges e he

namespace IsBuilt

variable {g h : Graph}

theorem isKeyed (built : g.IsBuilt) : g.IsKeyed := by
  induction built with
  | ofPosts now settings posts => exact isKeyed_ofFragments _
  | ofMarket rs => exact isKeyed_ofFragments _
  | ofPolicies rs => exact isKeyed_ofFragments _
  | union _ _ ihg ihh => exact ihg.union ihh
  | aroundTopic topic period _ _ =>
    rw [aroundTopic_eq_restrict]
    exact isKeyed_restrict _ _

/-- No property of a built graph has a structural name. -/
theorem hidesNothing (built : g.IsBuilt) : g.HidesNothing := by
  induction built with
  | ofPosts now settings posts =>
    refine hidesNothing_ofFragments fun f mem => ?_
    obtain ⟨plan, hplan, rfl⟩ := List.mem_map.1 mem
    obtain ⟨p, -, plans⟩ := mem_plansOf hplan
    exact plans.hidesNothing _
  | ofMarket rs =>
    refine hidesNothing_ofFragments fun f mem => ?_
    obtain ⟨r, -, fragment⟩ := List.mem_filterMap.1 mem
    exact MarketPoint.hidesNothing_of_fragment? fragment
  | ofPolicies rs =>
    refine hidesNothing_ofFragments fun f mem => ?_
    obtain ⟨r, -, fragment⟩ := List.mem_filterMap.1 mem
    exact PolicyDocument.hidesNothing_of_fragment? fragment
  | union _ _ ihg ihh =>
    refine ⟨fun n mem => ?_, fun e he => ?_⟩
    · exact (mem_values_union mem).elim (ihg.nodes n) (ihh.nodes n)
    · exact (List.mem_append.1 he).elim (ihg.edges e) (ihh.edges e)
  | aroundTopic topic period _ ih =>
    refine ⟨fun n mem => ih.nodes n (mem_values_aroundTopic mem), fun e he => ?_⟩
    rw [aroundTopic_eq_restrict] at he
    exact ih.edges e (mem_edges_restrict.1 he).1

/-- A document tells everything of a built graph.  No property gives way to a structural name, and
two graphs with equal documents are equal: the same where the documents are the same, and equal up
to the sign of zeros where the documents are. -/
theorem eq_of_document (builtG : g.IsBuilt) (builtH : h.IsBuilt) :
    g.HidesNothing ∧ (g.document = h.document → g = h) ∧
      ((g.document == h.document) = true → (g == h) = true) := by
  have hidesG := builtG.hidesNothing
  have hidesH := builtH.hidesNothing
  refine ⟨hidesG, fun same => ?_, fun same => ?_⟩
  · exact (agrees_of_document Json.isStructural_eq builtG.isKeyed builtH.isKeyed hidesG hidesH
      same).eq
  · exact (agrees_of_document Json.isStructural_same builtG.isKeyed builtH.isKeyed hidesG hidesH
      same).beq

/-- One point of market data in two spellings, once united with the part around a topic that is not
there. -/
theorem eq_of_document_market :
    let g := Graph.ofMarket [{ statId := "m", state := some "ny" }]
    let h := (Graph.ofMarket [{ statId := " m\n", state := some "NY " }]).union
      ((Graph.ofPosts ⟨0, 0, by decide⟩ {} []).aroundTopic "games" none)
    g.IsBuilt ∧ h.IsBuilt ∧ g.edges.length = 1 ∧ g.document = h.document ∧ g.HidesNothing ∧
      g = h := by
  intro g h
  have builtG : g.IsBuilt := .ofMarket _
  have builtH : h.IsBuilt := .union (.ofMarket _) (.aroundTopic _ _ (.ofPosts _ _ _))
  have same : g.document = h.document := by rfl
  have ⟨hides, eq, _⟩ := eq_of_document builtG builtH
  exact ⟨builtG, builtH, by decide +kernel, same, hides, eq same⟩

end IsBuilt

end Graph

end KnowledgeGraph

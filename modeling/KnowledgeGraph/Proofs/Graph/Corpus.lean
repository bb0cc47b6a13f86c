import KnowledgeGraph.Graph.OfCorpus
import KnowledgeGraph.Proofs.Graph.PlannedPost
import KnowledgeGraph.Proofs.Graph.Statements

/-!
# The graphs of a corpus are well formed

Every record gives a closed fragment: a post by its plan (`PlannedPost.Plans.isClosed`), a point of
market data and a document of policy here.  So the graphs of the three families are well formed,
and their union and the parts around topics with them (`Corpus.isWellFormed_of_gives`).  Posts and
documents give no bare node.  A point of market data can: nothing but its identifier is required.
-/

namespace KnowledgeGraph

open KnowledgeGraph.Graph (Fragment)
open Text (presence?)

/-- The references of the nodes of mentioned entities. -/
theorem map_ref_map_fst (ps : List (Node × Mention)) :
    (ps.map (·.1)).map Node.ref = ps.map (·.1.ref) := by
  rw [List.map_map]
  rfl

/-! ## Market data -/

namespace MarketPoint

theorem ref_dataNode (r : MarketPoint) (statId : String) (state segment : Option Node) :
    (r.dataNode statId state segment).ref = ⟨.marketData, statId⟩ := by
  simp only [dataNode, Node.ref_setPresent]
  rfl

/-- A point of market data has the nodes that its edges lead to. -/
theorem isClosed_of_fragment? {r : MarketPoint} {f : Fragment} (h : r.fragment? = some f) :
    f.IsClosed := by
  simp only [fragment?, Option.map_eq_some_iff] at h
  obtain ⟨statId, -, rfl⟩ := h
  intro e he
  simp only [ref_dataNode, List.map_append, List.mem_append, List.map_cons, List.map_nil] at he ⊢
  rcases he with (he | he) | he
  · refine isClosedIn_of_mem_namedEdge he (by simp) (fun n state => by simp [state]) ?_
    intro n state
    simp [Node.ref, (kind_of_stateOf? state).1, EdgeKind.ends]
  · refine isClosedIn_of_mem_namedEdge he (by simp) (fun n segment => by simp [segment]) ?_
    intro n segment
    obtain ⟨label, -, rfl⟩ := Option.map_eq_some_iff.1 segment
    simp [EdgeKind.ends]
  · refine isClosedIn_of_mem_entityEdges he (by simp) (by simp [EdgeKind.ends]) ?_
    intro r mem
    rw [← map_ref_map_fst] at mem
    simp only [List.mem_append, mem, true_or, or_true]

/-- The nodes that a point of market data gives, by what they stand for. -/
inductive NodeOf (r : MarketPoint) : Node → Prop where
  /-- The state. -/
  | state (n : Node) : stateOf? r.state = some n → NodeOf r n
  /-- The segment. -/
  | segment (label : String) : r.segment.bind presence? = some label →
      NodeOf r (labelNode .segment "label" label)
  /-- An entity that the point mentions. -/
  | entity (m : Mention) (n : Node) : m ∈ r.entities → m.node? = some n → NodeOf r n
  /-- The point itself. -/
  | data (statId : String) (state segment : Option Node) :
      NodeOf r (r.dataNode statId state segment)

/-- Every node that a point gives stands for the point or for something that it refers to. -/
theorem nodeOf_of_fragment? {r : MarketPoint} {f : Fragment} (h : r.fragment? = some f) {n : Node}
    (mem : n ∈ f.nodes) : NodeOf r n := by
  simp only [fragment?, Option.map_eq_some_iff] at h
  obtain ⟨statId, -, rfl⟩ := h
  simp only [List.mem_append, Option.mem_toList, List.mem_singleton] at mem
  rcases mem with ((state | segment) | entity) | rfl
  · exact .state n state
  · obtain ⟨label, has, rfl⟩ := Option.map_eq_some_iff.1 segment
    exact .segment label has
  · obtain ⟨p, hp, rfl⟩ := List.mem_map.1 entity
    have ⟨mentioned, node⟩ := mem_mentionedEntities.1 hp
    exact .entity p.2 p.1 mentioned node
  · exact .data statId _ _

end MarketPoint

/-! ## Documents of policy -/

/-- The edges to key points join the document and these key points. -/
theorem isClosedIn_of_mem_keypointEdges {policy : Ref} {rs refs : List Ref} {order : Nat}
    {e : Edge} (he : e ∈ keypointEdges policy order rs) (source : policy ∈ refs)
    (kind : policy.kind = .policy) (targets : ∀ r ∈ rs, r ∈ refs ∧ r.kind = .keyPoint) :
    e.IsClosedIn refs := by
  induction rs generalizing order with
  | nil => cases he
  | cons r rs ih =>
    rcases List.mem_cons.1 he with rfl | he
    · have ⟨target, kind'⟩ := targets r (by simp)
      refine ⟨source, target, ?_⟩
      simp [Edge.IsTyped, kind, kind', EdgeKind.ends]
    · exact ih he fun r mem => targets r (List.mem_cons_of_mem _ mem)

namespace PolicyDocument

theorem ref_policyNode (r : PolicyDocument) (docId : String) (state : Option Node) (n : Nat) :
    (r.policyNode docId state n).ref = ⟨.policy, docId⟩ := by
  simp only [policyNode, Node.ref_set, Node.ref_setPresent]
  rfl

/-- What the statements of a document find is sound, and their edges join known entities. -/
theorem isSound_relationEdges (r : PolicyDocument) (docId : String) :
    let found := relationEdges docId ⟨nameIndex (mentionedEntities r.entities), []⟩ r.relations
    let mentioned := (mentionedEntities r.entities).map (·.1.ref)
    found.2.IsSound mentioned ∧ ∀ e ∈ found.1, e.IsClosedIn (found.2.refs mentioned) :=
  have ⟨sound, _, closed⟩ :=
    (Resolution.isSound_nameIndex r.entities).statements docId r.relations
  ⟨sound, closed⟩

/-- A document has the nodes that its edges lead to. -/
theorem isClosed_of_fragment? {r : PolicyDocument} {f : Fragment} (h : r.fragment? = some f) :
    f.IsClosed := by
  simp only [fragment?, Option.map_eq_some_iff] at h
  obtain ⟨docId, -, rfl⟩ := h
  have ⟨_, relations⟩ := r.isSound_relationEdges docId
  intro e he
  simp only [ref_policyNode, List.map_append, List.mem_append, List.map_cons, List.map_nil]
    at he ⊢
  rcases he with (((he | he) | he) | he) | he
  · refine isClosedIn_of_mem_namedEdge he (by simp) (fun n state => by simp [state]) ?_
    intro n state
    simp [Node.ref, (kind_of_stateOf? state).1, EdgeKind.ends]
  · refine isClosedIn_of_mem_namedEdge he (by simp) (fun n named => by simp [named]) ?_
    intro n named
    obtain ⟨label, -, rfl⟩ := Option.map_eq_some_iff.1 named
    simp [EdgeKind.ends]
  · refine isClosedIn_of_mem_keypointEdges he (by simp) rfl fun r mem => ?_
    rw [mem_distinct] at mem
    refine ⟨?_, ?_⟩
    · simp only [List.mem_append, mem, true_or, or_true]
    · obtain ⟨n, hn, rfl⟩ := List.mem_map.1 mem
      obtain ⟨text, -, rfl⟩ := List.mem_map.1 hn
      rfl
  · refine isClosedIn_of_mem_entityEdges he (by simp) (by simp [EdgeKind.ends]) ?_
    intro r mem
    rw [← map_ref_map_fst] at mem
    simp only [List.mem_append, mem, true_or, or_true]
  · refine (relations e he).mono fun r mem => ?_
    rw [Resolution.refs, ← map_ref_map_fst] at mem
    rcases List.mem_append.1 mem with mem | mem <;>
      simp only [List.mem_append, mem, true_or, or_true]

/-- The nodes that a document gives, by what they stand for. -/
inductive NodeOf (r : PolicyDocument) : Node → Prop where
  /-- The state. -/
  | state (n : Node) : stateOf? r.state = some n → NodeOf r n
  /-- The type of policy. -/
  | policyType (label : String) : r.policyType.bind presence? = some label →
      NodeOf r (labelNode .policyType "label" label)
  /-- A key point. -/
  | keypoint (text : String) : text ∈ presentTexts r.keyPoints → NodeOf r (keypointNode text)
  /-- An entity that the document mentions. -/
  | entity (m : Mention) (n : Node) : m ∈ r.entities → m.node? = some n → NodeOf r n
  /-- The document itself. -/
  | policy (docId : String) (state : Option Node) (keypoints : Nat) :
      NodeOf r (r.policyNode docId state keypoints)
  /-- An entity that a literal stands for by itself. -/
  | literal (literal : String) : NodeOf r (literalNode literal)

/-- Every node that a document gives stands for the document or for something that it refers to. -/
theorem nodeOf_of_fragment? {r : PolicyDocument} {f : Fragment} (h : r.fragment? = some f)
    {n : Node} (mem : n ∈ f.nodes) : NodeOf r n := by
  simp only [fragment?, Option.map_eq_some_iff] at h
  obtain ⟨docId, -, rfl⟩ := h
  have ⟨sound, _⟩ := r.isSound_relationEdges docId
  simp only [List.mem_append, Option.mem_toList, List.mem_singleton] at mem
  rcases mem with ((((state | policyType) | keypoint) | entity) | rfl) | created
  · exact .state n state
  · obtain ⟨label, has, rfl⟩ := Option.map_eq_some_iff.1 policyType
    exact .policyType label has
  · obtain ⟨text, has, rfl⟩ := List.mem_map.1 keypoint
    exact .keypoint text has
  · obtain ⟨p, hp, rfl⟩ := List.mem_map.1 entity
    have ⟨mentioned, node⟩ := mem_mentionedEntities.1 hp
    exact .entity p.2 p.1 mentioned node
  · exact .policy docId _ _
  · obtain ⟨literal, rfl⟩ := sound.made n created
    exact .literal literal

/-- A document gives no bare node. -/
theorem isBare_of_fragment? {r : PolicyDocument} {f : Fragment} (h : r.fragment? = some f) :
    ∀ n ∈ f.nodes, n.isBare = false := by
  intro n mem
  cases nodeOf_of_fragment? h mem with
  | state n state => exact (kind_of_stateOf? state).2
  | policyType label _ => exact isBare_labelNode _ _ _
  | keypoint text _ => exact Node.isBare_set rfl
  | entity m n _ node => exact (Mention.ref_of_node? node).2
  | policy docId state keypoints => exact Node.isBare_set rfl
  | literal literal => exact isBare_literalNode literal

end PolicyDocument

/-! ## The three families -/

theorem Graph.isWellFormed_ofPosts (now : Instant) (settings : Settings) (posts : List Post) :
    (Graph.ofPosts now settings posts).IsWellFormed := by
  refine isWellFormed_ofFragments fun f mem => ?_
  obtain ⟨plan, hp, rfl⟩ := List.mem_map.1 mem
  obtain ⟨p, -, plans⟩ := mem_plansOf hp
  exact plans.isClosed _

theorem Graph.isWellFormed_ofMarket (rs : List MarketPoint) : (Graph.ofMarket rs).IsWellFormed := by
  refine isWellFormed_ofFragments fun f mem => ?_
  obtain ⟨r, -, fragment⟩ := List.mem_filterMap.1 mem
  exact MarketPoint.isClosed_of_fragment? fragment

theorem Graph.isWellFormed_ofPolicies (rs : List PolicyDocument) :
    (Graph.ofPolicies rs).IsWellFormed := by
  refine isWellFormed_ofFragments fun f mem => ?_
  obtain ⟨r, -, fragment⟩ := List.mem_filterMap.1 mem
  exact PolicyDocument.isClosed_of_fragment? fragment

/-- No node of a graph of posts is bare. -/
theorem Graph.isBare_ofPosts {now : Instant} {settings : Settings} {posts : List Post} {n : Node}
    (mem : n ∈ (Graph.ofPosts now settings posts).nodes.values) : n.isBare = false := by
  obtain ⟨f, hf, mem⟩ := mem_of_mem_ofFragments mem
  obtain ⟨plan, hp, rfl⟩ := List.mem_map.1 hf
  obtain ⟨p, -, plans⟩ := mem_plansOf hp
  exact plans.isBare n mem

/-- No node of a graph of policies is bare. -/
theorem Graph.isBare_ofPolicies {rs : List PolicyDocument} {n : Node}
    (mem : n ∈ (Graph.ofPolicies rs).nodes.values) : n.isBare = false := by
  obtain ⟨f, hf, mem⟩ := mem_of_mem_ofFragments mem
  obtain ⟨r, -, fragment⟩ := List.mem_filterMap.1 hf
  exact PolicyDocument.isBare_of_fragment? fragment n mem

/-! ## The graphs that a corpus gives -/

namespace Corpus

/-- The graphs that a corpus gives: those of its families, their union, and the parts of any of
these around topics. -/
inductive Gives (c : Corpus) (now : Instant) (settings : Settings) : Graph → Prop where
  /-- The graph of the posts. -/
  | social : Gives c now settings (c.graphs now settings).social
  /-- The graph of the market data. -/
  | market : Gives c now settings (c.graphs now settings).market
  /-- The graph of the policies. -/
  | policy : Gives c now settings (c.graphs now settings).policy
  /-- The union of the three. -/
  | whole : Gives c now settings (c.graphs now settings).whole
  /-- The part of one of these around a topic. -/
  | aroundTopic {g : Graph} (topic : String) (period : Option Period) :
      Gives c now settings g → Gives c now settings (g.aroundTopic topic period)

variable {c : Corpus} {now : Instant} {settings : Settings} {g : Graph}

/-- Every graph that a corpus gives is well formed. -/
theorem isWellFormed_of_gives (h : c.Gives now settings g) : g.IsWellFormed := by
  have social := Graph.isWellFormed_ofPosts now settings c.posts
  have market := Graph.isWellFormed_ofMarket c.market
  have policy := Graph.isWellFormed_ofPolicies c.policies
  induction h with
  | social => exact social
  | market => exact market
  | policy => exact policy
  | whole => exact (social.union market).union policy
  | aroundTopic topic period _ ih => exact ih.aroundTopic topic period

/-- Every graph that a corpus gives is well formed, and its report finds nothing wrong and no node
under a foreign key.  No node of a graph of posts or of policies is bare. -/
theorem graphs_wellFormed (c : Corpus) (now : Instant) (settings : Settings) :
    (∀ g, c.Gives now settings g →
      g.IsWellFormed ∧ g.report.defects = [] ∧ g.report.isSound = true ∧
        ∀ key stored, .foreignKey key stored ∉ g.report.oddities) ∧
    (∀ n ∈ (c.graphs now settings).social.nodes.values, n.isBare = false) ∧
    ∀ n ∈ (c.graphs now settings).policy.nodes.values, n.isBare = false := by
  refine ⟨fun g gives => ?_, fun n mem => Graph.isBare_ofPosts mem,
    fun n mem => Graph.isBare_ofPolicies mem⟩
  have wf := isWellFormed_of_gives gives
  refine ⟨wf, wf.defects_eq_nil, ?_, wf.keyed.foreignKey_not_mem⟩
  rw [Report.isSound, wf.defects_eq_nil]
  rfl

/-- A post and a document with a statement in one corpus.  The part around the topic of the post is
as sound as the union that it is taken from. -/
theorem graphs_wellFormed_around_games :
    let c : Corpus :=
      { posts := [{ id := "p", topic := some "Games" }]
        policies := [{ docId := "d"
                       entities := [{ text := "Acme", kbId := some "Q1" },
                         { text := "Texas", kbId := some "Q2" }]
                       relations := [{ subject := "acme", object := " TEXAS" }] }] }
    let now : Instant := ⟨0, 0, by decide⟩
    let whole := (c.graphs now {}).whole
    let g := whole.aroundTopic " games" none
    c.Gives now {} g ∧ whole.edges.length = 4 ∧ g.edges.length = 1 ∧ whole.IsWellFormed ∧
      g.IsWellFormed ∧ g.report.defects = [] ∧
      ∀ n ∈ (c.graphs now {}).policy.nodes.values, n.isBare = false := by
  intro c now whole g
  have gives : c.Gives now {} g := .aroundTopic _ _ .whole
  have sound := graphs_wellFormed c now {}
  exact ⟨gives, by decide +kernel, by decide +kernel, (sound.1 whole .whole).1,
    (sound.1 g gives).1, (sound.1 g gives).2.1, sound.2.2⟩

end Corpus

end KnowledgeGraph

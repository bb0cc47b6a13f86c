import KnowledgeGraph.Proofs.Graph.Report
import KnowledgeGraph.Proofs.Graph.Restriction

/-!
# Well-formed graphs

Every kind of edge joins nodes of certain kinds only (`EdgeKind.ends`).  A graph is well formed
when its nodes stand under their own keys, both ends of every edge are nodes of the graph, and
the kinds of the ends suit the kind of the edge.

Fragments that are closed by themselves, each having the nodes that its edges lead to, make a
well-formed graph (`isWellFormed_ofFragments`).  Unions and the parts around topics are well formed
again.  The report on a well-formed graph lists no defect and no node under a foreign key
(`IsWellFormed.defects_eq_nil`, `IsKeyed.foreignKey_not_mem`).
-/

namespace KnowledgeGraph

/-! ## The kinds of ends -/

/-- The kinds of nodes that a kind of edges joins, the one at the source first. -/
def EdgeKind.ends : EdgeKind → List (NodeKind × NodeKind)
  | .mentionsKeyword => [(.post, .keyword)]
  | .mentionsEntity => [(.post, .entity), (.marketData, .entity), (.policy, .entity)]
  | .hasTopic => [(.post, .topic)]
  | .hasSentiment => [(.post, .sentimentTag)]
  | .authoredBy => [(.post, .user)]
  | .inSubreddit => [(.post, .subreddit)]
  | .coOccurs => [(.keyword, .keyword)]
  | .inState => [(.marketData, .state)]
  | .hasSegment => [(.marketData, .segment)]
  | .appliesToState => [(.policy, .state)]
  | .hasType => [(.policy, .policyType)]
  | .hasKeypoint => [(.policy, .keyPoint)]
  | .policyRelation => [(.entity, .entity)]

/-- The kinds of the ends of an edge suit its own kind. -/
def Edge.IsTyped (e : Edge) : Prop := (e.source.kind, e.target.kind) ∈ e.kind.ends

instance (e : Edge) : Decidable e.IsTyped := inferInstanceAs (Decidable (_ ∈ _))

/-- No edge leads to a post. -/
theorem Edge.IsTyped.target_ne_post {e : Edge} (typed : e.IsTyped) : e.target.kind ≠ .post := by
  intro eq
  rw [IsTyped, eq] at typed
  cases kind : e.kind <;> simp [kind, EdgeKind.ends] at typed

/-- An edge that joins two of the given nodes, of kinds that it may join. -/
structure Edge.IsClosedIn (refs : List Ref) (e : Edge) : Prop where
  /-- The source is one of the nodes. -/
  source : e.source ∈ refs
  /-- The target is one of the nodes. -/
  target : e.target ∈ refs
  /-- The kinds of the ends suit the kind of the edge. -/
  typed : e.IsTyped

/-- Further nodes do not matter. -/
theorem Edge.IsClosedIn.mono {refs refs' : List Ref} {e : Edge} (closed : e.IsClosedIn refs)
    (sub : refs ⊆ refs') : e.IsClosedIn refs' :=
  ⟨sub closed.source, sub closed.target, closed.typed⟩

namespace Graph

/-- The fragment has the nodes that its edges join. -/
def Fragment.IsClosed (f : Fragment) : Prop :=
  ∀ e ∈ f.edges, e.IsClosedIn (f.nodes.map Node.ref)

/-! ## Well-formed graphs -/

/-- The nodes stand under their own keys, and the edges join nodes of the graph, of kinds that
they may join. -/
structure IsWellFormed (g : Graph) : Prop where
  /-- Every node stands under its own key. -/
  keyed : g.IsKeyed
  /-- Both ends of every edge are found, as nodes of exactly their kind and identifier. -/
  ends : ∀ e ∈ g.edges, (∃ n, g.node? e.source = some n ∧ n.ref = e.source) ∧
    ∃ n, g.node? e.target = some n ∧ n.ref = e.target
  /-- The kinds of the ends of every edge suit its own kind. -/
  typed : ∀ e ∈ g.edges, e.IsTyped

variable {g h : Graph}

/-- In a graph whose nodes stand under their own keys, it is enough that the ends are found. -/
theorem IsKeyed.isWellFormed (keyed : g.IsKeyed)
    (ends : ∀ e ∈ g.edges, g.contains e.source = true ∧ g.contains e.target = true)
    (typed : ∀ e ∈ g.edges, e.IsTyped) : g.IsWellFormed := by
  have exact_of_contains {r : Ref} (found : g.contains r = true) :
      ∃ n, g.node? r = some n ∧ n.ref = r := by
    obtain ⟨n, found⟩ := Option.isSome_iff_exists.1 found
    exact ⟨n, found, keyed.ref_eq found⟩
  refine ⟨keyed, fun e he => ?_, typed⟩
  exact ⟨exact_of_contains (ends e he).1, exact_of_contains (ends e he).2⟩

theorem IsWellFormed.contains_source (wf : g.IsWellFormed) {e : Edge} (he : e ∈ g.edges) :
    g.contains e.source = true := by
  obtain ⟨n, found, -⟩ := (wf.ends e he).1
  simp [contains_eq, found]

theorem IsWellFormed.contains_target (wf : g.IsWellFormed) {e : Edge} (he : e ∈ g.edges) :
    g.contains e.target = true := by
  obtain ⟨n, found, -⟩ := (wf.ends e he).2
  simp [contains_eq, found]

/-! ## Operations -/

/-- Closed fragments make a well-formed graph. -/
theorem isWellFormed_ofFragments {fs : List Fragment} (closed : ∀ f ∈ fs, f.IsClosed) :
    (ofFragments fs).IsWellFormed := by
  have origin {e : Edge} (he : e ∈ (ofFragments fs).edges) : ∃ f ∈ fs, e ∈ f.edges :=
    List.mem_flatMap.1 he
  refine (isKeyed_ofFragments fs).isWellFormed (fun e he => ?_) (fun e he => ?_)
  · obtain ⟨f, hf, he⟩ := origin he
    have joins := closed f hf e he
    exact ⟨contains_ofFragments hf joins.source, contains_ofFragments hf joins.target⟩
  · obtain ⟨f, hf, he⟩ := origin he
    exact (closed f hf e he).typed

/-- A union contains what either graph contains. -/
theorem contains_union (g h : Graph) (r : Ref) :
    (g.union h).contains r = (g.contains r || h.contains r) := by
  simp [contains_eq, node?_union]

/-- The union of well-formed graphs is well formed. -/
theorem IsWellFormed.union (hg : g.IsWellFormed) (hh : h.IsWellFormed) :
    (g.union h).IsWellFormed := by
  refine (hg.keyed.union hh.keyed).isWellFormed (fun e he => ?_) (fun e he => ?_)
  · rw [contains_union, contains_union]
    rcases List.mem_append.1 he with he | he
    · simp [hg.contains_source he, hg.contains_target he]
    · simp [hh.contains_source he, hh.contains_target he]
  · rcases List.mem_append.1 he with he | he
    · exact hg.typed e he
    · exact hh.typed e he

/-- A restriction of a well-formed graph is well formed. -/
theorem IsWellFormed.restrict (wf : g.IsWellFormed) (refs : List Ref) :
    (g.restrict refs).IsWellFormed := by
  refine (isKeyed_restrict g refs).isWellFormed (fun e he => ?_) (fun e he => ?_)
  · obtain ⟨he, source, target⟩ := mem_edges_restrict.1 he
    simp only [contains_eq, wf.keyed.node?_restrict, source, target, if_true]
    exact ⟨wf.contains_source he, wf.contains_target he⟩
  · exact wf.typed e (mem_edges_restrict.1 he).1

/-- The part of a well-formed graph around a topic is well formed. -/
theorem IsWellFormed.aroundTopic (wf : g.IsWellFormed) (topic : String)
    (period : Option Period) : (g.aroundTopic topic period).IsWellFormed := by
  rw [aroundTopic_eq_restrict]
  exact wf.restrict _

/-! ## Reports -/

/-- The report on a well-formed graph lists no defect. -/
theorem IsWellFormed.defects_eq_nil (wf : g.IsWellFormed) : g.report.defects = [] := by
  have resolved : g.ResolvesEnds :=
    resolvesEnds_iff.2 fun e he => ⟨wf.contains_source he, wf.contains_target he⟩
  exact List.isEmpty_iff.1 (isSound_report_iff.2 ⟨wf.keyed.hasDistinctNodes, resolved⟩)

/-- The report on a graph whose nodes stand under their own keys says so. -/
theorem IsKeyed.foreignKey_not_mem (keyed : g.IsKeyed) (key stored : String) :
    .foreignKey key stored ∉ g.report.oddities := by
  have none : g.foreignKeys = [] := by
    rw [foreignKeys, List.filterMap_eq_nil_iff]
    rintro ⟨stored, n⟩ mem
    exact if_pos (keyed _ mem)
  simp only [report, none, List.nil_append, bareOddity]
  split <;> simp

end Graph

end KnowledgeGraph

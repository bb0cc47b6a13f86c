import KnowledgeGraph.Proofs.Graph.WellFormed

/-!
# The posts around a topic

In a well-formed graph no edge leads to a post.  So the step from the selected posts to the nodes
next to them reaches no further post, and the posts of the part around a topic are exactly the
selected ones (`IsWellFormed.mem_nodesOf_aroundTopic`).
-/

namespace KnowledgeGraph.Graph

variable {g : Graph} {topic : String} {period : Option Period} {r : Ref} {n : Node}

/-! ## Selected posts -/

/-- A selected post has an edge to the topic and lies in the period. -/
theorem mem_topicPosts {ref : Ref} : r ∈ g.topicPosts ref period ↔
    (∃ e ∈ g.edgesOf .hasTopic, e.source = r ∧ e.target = ref) ∧ r.kind = .post ∧
      ∀ p ∈ period, g.isInPeriod p r = true := by
  have within : (period.all fun p => g.isInPeriod p r) = true ↔
      ∀ p ∈ period, g.isInPeriod p r = true := by
    cases period <;> simp
  simp only [topicPosts, mem_distinct, List.mem_filter, List.mem_map, within, Bool.and_eq_true,
    beq_iff_eq]
  constructor
  · rintro ⟨⟨e, ⟨he, target, kind⟩, rfl⟩, inside⟩
    exact ⟨⟨e, he, rfl, target⟩, kind, inside⟩
  · rintro ⟨⟨e, he, rfl, target⟩, kind, inside⟩
    exact ⟨⟨e, ⟨he, target, kind⟩, rfl⟩, inside⟩

/-- No further post is reached from posts. -/
theorem IsWellFormed.mem_around (wf : g.IsWellFormed) {posts : List Ref}
    (only : ∀ s ∈ posts, s.kind = .post) (kind : r.kind = .post) :
    r ∈ g.around posts ↔ r ∈ posts := by
  rw [Graph.mem_around]
  constructor
  · rintro (mem | ⟨s, hs, beside⟩)
    · exact mem
    · obtain ⟨e, he, joins⟩ := mem_neighbors.1 beside
      have away := (wf.typed e he).target_ne_post
      rcases joins with ⟨-, rfl⟩ | ⟨-, rfl⟩
      · exact absurd kind away
      · exact absurd (only _ hs) away
  · exact .inl

/-- The posts that the part around a topic keeps are the selected ones. -/
theorem IsWellFormed.mem_aroundRefs (wf : g.IsWellFormed) (named : (topicRef topic).id ≠ "")
    (kind : r.kind = .post) :
    r ∈ g.aroundRefs topic period ↔ r ∈ g.topicPosts (topicRef topic) period := by
  rw [aroundRefs]
  split
  · next absent =>
    -- Without the node of the topic there is no edge to it, so no post is selected either.
    have missing := absent.resolve_left named
    have none : g.topicPosts (topicRef topic) period = [] := by
      refine List.eq_nil_iff_forall_not_mem.2 fun s mem => ?_
      obtain ⟨e, he, -, target⟩ := (mem_topicPosts.1 mem).1
      have found := wf.contains_target (List.mem_filter.1 he).1
      rw [target, contains_eq, missing] at found
      cases found
    rw [none]
  · exact wf.mem_around (fun s mem => (mem_topicPosts.1 mem).2.1) kind

/-! ## Nodes of kind `post` -/

/-- Nodes are found by their references. -/
theorem IsKeyed.mem_values_iff (keyed : g.IsKeyed) : n ∈ g.nodes.values ↔ g.node? n.ref = some n :=
  ⟨keyed.node?_ref, mem_values_of_node?⟩

theorem IsKeyed.mem_nodesOf (keyed : g.IsKeyed) {kind : NodeKind} :
    n ∈ g.nodesOf kind ↔ g.node? n.ref = some n ∧ n.kind = kind := by
  rw [nodesOf, List.mem_filter, keyed.mem_values_iff, beq_iff_eq]

/-- The posts around a topic are the selected ones. -/
theorem IsWellFormed.mem_nodesOf_aroundTopic (wf : g.IsWellFormed)
    (named : (topicRef topic).id ≠ "") : n ∈ (g.aroundTopic topic period).nodesOf .post ↔
      n.ref ∈ g.topicPosts (topicRef topic) period ∧ g.node? n.ref = some n := by
  rw [aroundTopic_eq_restrict, (isKeyed_restrict _ _).mem_nodesOf, wf.keyed.node?_restrict]
  constructor
  · rintro ⟨found, kind⟩
    split at found
    · next mem => exact ⟨(wf.mem_aroundRefs named kind).1 mem, found⟩
    · cases found
  · rintro ⟨mem, found⟩
    have kind : n.ref.kind = .post := (mem_topicPosts.1 mem).2.1
    rw [if_pos ((wf.mem_aroundRefs named kind).2 mem)]
    exact ⟨found, kind⟩

end KnowledgeGraph.Graph

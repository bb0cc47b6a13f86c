import KnowledgeGraph.Proofs.Graph.Topic

/-!
# The part around a topic, exactly

A post is selected if an edge leads from it to the topic and its node carries a time in the period
(`IsSelected`), and a reference is near if it is selected or the neighbor of a selected post
(`IsNear`).  The part of a graph around a topic has the nodes and the edges of what is near, and no
others (`isAround_aroundTopic`).

What is near need not have a node.  A reference without one adds no node, but its edges are kept,
and so a selected post keeps all its neighbors.
-/

namespace KnowledgeGraph

namespace Graph

variable {g : Graph} {topic : Ref} {period : Option Period} {refs : List Ref} {r : Ref}

/-! ## Selected posts and what is next to them -/

/-- The node of a post carries a time in a period, in writing that can be read. -/
def IsDatedIn (g : Graph) (period : Period) (post : Ref) : Prop :=
  ∃ n ∈ g.node? post, ∃ text ∈ n.propertyText? "timestamp", ∃ t ∈ Time.ofText? text,
    period.contains t = true

instance (g : Graph) (period : Period) (post : Ref) : Decidable (g.IsDatedIn period post) :=
  inferInstanceAs (Decidable (∃ n ∈ g.node? post, _))

/-- A post has the topic and, if there is a period, is dated in it. -/
def IsSelected (g : Graph) (topic : Ref) (period : Option Period) (post : Ref) : Prop :=
  post.kind = .post ∧
    (∃ e ∈ g.edges, e.kind = .hasTopic ∧ e.source = post ∧ e.target = topic) ∧
    ∀ p ∈ period, g.IsDatedIn p post

instance (g : Graph) (topic : Ref) (period : Option Period) (post : Ref) :
    Decidable (g.IsSelected topic period post) :=
  inferInstanceAs (Decidable (_ ∧ _ ∧ _))

/-- A selected post or a neighbor of one. -/
def IsNear (g : Graph) (topic : Ref) (period : Option Period) (r : Ref) : Prop :=
  g.IsSelected topic period r ∨ ∃ s, g.IsSelected topic period s ∧ r ∈ g.neighbors s

theorem isInPeriod_iff {p : Period} {post : Ref} :
    g.isInPeriod p post = true ↔ g.IsDatedIn p post := by
  simp only [isInPeriod, IsDatedIn, Option.any_eq_true, Option.bind_eq_some_iff, Option.mem_def]
  constructor
  · rintro ⟨t, ⟨text, ⟨n, found, has⟩, read⟩, inside⟩
    exact ⟨n, found, text, has, t, read, inside⟩
  · rintro ⟨n, found, text, has, t, read, inside⟩
    exact ⟨t, ⟨text, ⟨n, found, has⟩, read⟩, inside⟩

theorem mem_topicPosts_iff : r ∈ g.topicPosts topic period ↔ g.IsSelected topic period r := by
  rw [mem_topicPosts]
  simp only [edgesOf, List.mem_filter, beq_iff_eq, isInPeriod_iff]
  constructor
  · rintro ⟨⟨e, ⟨he, kind⟩, source, target⟩, post, dated⟩
    exact ⟨post, ⟨e, he, kind, source, target⟩, dated⟩
  · rintro ⟨post, ⟨e, he, kind, source, target⟩, dated⟩
    exact ⟨⟨e, ⟨he, kind⟩, source, target⟩, post, dated⟩

theorem mem_around_topicPosts :
    r ∈ g.around (g.topicPosts topic period) ↔ g.IsNear topic period r := by
  rw [mem_around]
  simp only [mem_topicPosts_iff]
  exact Iff.rfl

instance (g : Graph) (topic : Ref) (period : Option Period) (r : Ref) :
    Decidable (g.IsNear topic period r) :=
  decidable_of_iff _ mem_around_topicPosts

/-- Nothing is near where nothing is selected. -/
theorem IsNear.exists_isSelected (near : g.IsNear topic period r) :
    ∃ s, g.IsSelected topic period s := by
  rcases near with selected | ⟨s, selected, -⟩
  · exact ⟨r, selected⟩
  · exact ⟨s, selected⟩

/-! ## The part around a topic -/

/-- What the part around a topic keeps is near, if the topic has a name and a node. -/
theorem mem_aroundRefs {topic : String} : r ∈ g.aroundRefs topic period ↔
    (Text.normalize topic ≠ "" ∧ g.contains (topicRef topic) = true) ∧
      g.IsNear (topicRef topic) period r := by
  rw [aroundRefs, contains_eq, Option.isSome_iff_ne_none]
  split
  · next absent =>
    constructor
    · intro mem
      cases mem
    · rintro ⟨⟨named, found⟩, -⟩
      exact absurd absent (not_or.2 ⟨named, found⟩)
  · next present =>
    rw [mem_around_topicPosts]
    exact (and_iff_right (not_or.1 present)).symm

/-- A graph is what is near a topic in another one. -/
structure IsAround (g part : Graph) (topic : Ref) (period : Option Period) : Prop where
  /-- The nodes are those of the graph, unchanged, that are near. -/
  nodes : part.nodes = g.nodes.filter fun n => g.IsNear topic period n.ref
  /-- The edges are those of the graph, in order, whose ends are both near. -/
  edges : part.edges =
    g.edges.filter fun e => g.IsNear topic period e.source ∧ g.IsNear topic period e.target
  /-- A selected post keeps its neighbors, in order. -/
  neighbors : ∀ s, g.IsSelected topic period s → part.neighbors s = g.neighbors s
  /-- The posts and the references next to them can be gone through in any order. -/
  anyOrder : ∀ posts refs : List Ref, (∀ r, r ∈ posts ↔ g.IsSelected topic period r) →
    (∀ r, r ∈ refs ↔ r ∈ g.around posts) → g.restrict refs = part

/-- A restriction to what is near is the part around a topic. -/
theorem IsKeyed.isAround_restrict (keyed : g.IsKeyed)
    (near : ∀ r, r ∈ refs ↔ g.IsNear topic period r) :
    g.IsAround (g.restrict refs) topic period where
  nodes := by
    rw [keyed.nodes_restrict]
    simp only [near]
  edges := by
    rw [restrict]
    refine List.filter_congr fun e _ => ?_
    simp only [near, Bool.decide_and]
  neighbors s selected :=
    neighbors_restrict ((near s).2 (.inl selected)) fun r beside =>
      (near r).2 (.inr ⟨s, selected, beside⟩)
  anyOrder posts others selected around := by
    refine keyed.restrict_congr fun r => ?_
    rw [around, mem_around, near]
    simp only [selected]
    exact Iff.rfl

/-- The part of a graph around a topic is empty if the topic has no name or no node or no post is
selected, and otherwise it is exactly what is near the topic. -/
theorem isAround_aroundTopic (keyed : g.IsKeyed) (topic : String) (period : Option Period) :
    (Text.normalize topic = "" ∨ g.contains (topicRef topic) = false ∨
        (∀ r, ¬ g.IsSelected (topicRef topic) period r) →
      g.aroundTopic topic period = empty) ∧
    (Text.normalize topic ≠ "" → g.contains (topicRef topic) = true →
        (∃ r, g.IsSelected (topicRef topic) period r) →
      g.IsAround (g.aroundTopic topic period) (topicRef topic) period) := by
  rw [aroundTopic_eq_restrict]
  constructor
  · intro nothing
    have none : g.aroundRefs topic period = [] := by
      refine List.eq_nil_iff_forall_not_mem.2 fun r mem => ?_
      obtain ⟨⟨named, found⟩, near⟩ := mem_aroundRefs.1 mem
      obtain ⟨s, selected⟩ := near.exists_isSelected
      rcases nothing with unnamed | missing | unselected
      · exact named unnamed
      · rw [missing] at found
        cases found
      · exact unselected s selected
    rw [none, restrict_nil]
  · intro named found _
    refine keyed.isAround_restrict fun r => ?_
    rw [mem_aroundRefs, and_iff_right ⟨named, found⟩]

/-- A post of the period with a loop, an edge to a post outside of it and an edge to a user without
a node.  The other post is a neighbor, but its keyword is not near. -/
theorem isAround_aroundTopic_games :
    let first : Node := { kind := .post, id := "p" : Node }.set "timestamp" (.string "2024-03-01")
    let second : Node := { kind := .post, id := "q" }
    let topic : Node := { kind := .topic, id := "games" }
    let keyword : Node := { kind := .keyword, id := "k" }
    let joined (kind : EdgeKind) (source target : Ref) : Edge := { kind, source, target }
    let edges := [joined .hasTopic first.ref topic.ref, joined .hasTopic second.ref topic.ref,
      joined .mentionsKeyword second.ref keyword.ref, joined .coOccurs first.ref first.ref,
      joined .coOccurs second.ref first.ref, joined .authoredBy first.ref ⟨.user, "ann"⟩]
    let g : Graph := { Graph.ofFragments [⟨[first, second, topic, keyword], edges⟩] with
      schemaVersion := "v0" }
    let day : Period := .ofEnds ⟨1709251200, 0, by decide⟩ ⟨1709337600, 0, by decide⟩
    let part := g.aroundTopic " Games" (some day)
    g.IsKeyed ∧ g.IsAround part ⟨.topic, "games"⟩ (some day) ∧
      part.nodes.keys = ["Post:p", "Post:q", "Topic:games"] ∧ part.edges.length = 5 ∧
      part.neighbors first.ref = [topic.ref, first.ref, second.ref, ⟨.user, "ann"⟩] ∧
      g.aroundTopic "cards" (some day) = empty := by
  intro first second topic keyword joined edges g day part
  have keyed : g.IsKeyed := by decide +kernel
  have name : topicRef " Games" = ⟨.topic, "games"⟩ := by decide +kernel
  have selected : g.IsSelected ⟨.topic, "games"⟩ (some day) first.ref := by decide +kernel
  have around := (isAround_aroundTopic keyed " Games" (some day)).2 (by decide +kernel)
    (by decide +kernel) ⟨first.ref, by rw [name]; exact selected⟩
  rw [name] at around
  exact ⟨keyed, around, by decide +kernel, by decide +kernel, by decide +kernel,
    (isAround_aroundTopic keyed "cards" (some day)).1 (.inr (.inl (by decide +kernel)))⟩

end Graph

end KnowledgeGraph

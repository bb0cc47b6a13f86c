import KnowledgeGraph.Proofs.Graph.Neighborhood

/-!
# Parts around a topic in each other

A part around a topic keeps the topic, and every selected post with its node, its neighbors and its
edge to the topic.  So the same posts are selected in the part as in the graph
(`IsKeyed.isSelected_restrict`), and what is near them is the same, because a post that was kept
as a neighbor only has no edge to the topic or no time in the period in the part either.  Hence a
part around a topic is its own part around that topic.

A wider period selects more posts, and so more is near (`IsNear.mono`).
-/

namespace KnowledgeGraph.Graph

variable {g : Graph} {topic : Ref} {period wider : Option Period} {refs refs' : List Ref} {r : Ref}

/-! ## Inclusion -/

/-- A graph is included in another one. -/
structure IsIncludedIn (part g : Graph) : Prop where
  /-- Its nodes are found there under the same keys, with all their properties. -/
  nodes : ∀ key n, part.nodes.find? key = some n → g.nodes.find? key = some n
  /-- Its edges are some of the edges there, in order. -/
  edges : part.edges.Sublist g.edges

/-- Of two restrictions, one is included in the other if its references are. -/
theorem IsKeyed.isIncludedIn_restrict (keyed : g.IsKeyed) (sub : refs ⊆ refs') :
    (g.restrict refs).IsIncludedIn (g.restrict refs') where
  nodes key n found := by
    rw [keyed.nodes_restrict, KeyedMap.find?_filter, Option.filter_eq_some_iff] at found ⊢
    have ⟨found, mem⟩ := found
    exact ⟨found, decide_eq_true (sub (of_decide_eq_true mem))⟩
  edges := by
    refine List.monotone_filter_right g.edges fun e both => ?_
    rw [Bool.and_eq_true, decide_eq_true_eq, decide_eq_true_eq] at both ⊢
    exact ⟨sub both.1, sub both.2⟩

/-! ## Wider periods -/

/-- What is near under one condition on times is near under any weaker one. -/
theorem IsNear.mono
    (weaker : ∀ post, (∀ p ∈ period, g.IsDatedIn p post) → ∀ p ∈ wider, g.IsDatedIn p post)
    (near : g.IsNear topic period r) : g.IsNear topic wider r := by
  have selected {s : Ref} (h : g.IsSelected topic period s) : g.IsSelected topic wider s := by
    obtain ⟨kind, about, dated⟩ := h
    exact ⟨kind, about, weaker s dated⟩
  rcases near with own | ⟨s, hs, beside⟩
  · exact .inl (selected own)
  · exact .inr ⟨s, selected hs, beside⟩

theorem IsDatedIn.mono {p q : Period} (within : ∀ t, p.contains t = true → q.contains t = true)
    {post : Ref} (dated : g.IsDatedIn p post) : g.IsDatedIn q post := by
  obtain ⟨n, found, text, has, t, read, inside⟩ := dated
  exact ⟨n, found, text, has, t, read, within t inside⟩

/-- Under a weaker condition on times, the part around a topic is larger. -/
theorem IsKeyed.isIncludedIn_aroundTopic (keyed : g.IsKeyed) (topic : String)
    (weaker : ∀ post, (∀ p ∈ period, g.IsDatedIn p post) → ∀ p ∈ wider, g.IsDatedIn p post) :
    (g.aroundTopic topic period).IsIncludedIn (g.aroundTopic topic wider) := by
  rw [aroundTopic_eq_restrict, aroundTopic_eq_restrict]
  refine keyed.isIncludedIn_restrict fun r mem => ?_
  obtain ⟨present, near⟩ := mem_aroundRefs.1 mem
  exact mem_aroundRefs.2 ⟨present, near.mono weaker⟩

/-! ## The part of a part -/

/-- The topic of a selected post is near. -/
theorem IsSelected.isNear_target {s : Ref} (selected : g.IsSelected topic period s) :
    g.IsNear topic period topic := by
  obtain ⟨e, he, -, source, target⟩ := selected.2.1
  have joins : e.Joins s topic := .inl ⟨source, target⟩
  exact .inr ⟨s, selected, mem_neighbors.2 ⟨e, he, joins⟩⟩

/-- In a restriction to what is near, the same posts are selected. -/
theorem IsKeyed.isSelected_restrict (keyed : g.IsKeyed)
    (near : ∀ r, r ∈ refs ↔ g.IsNear topic period r) {s : Ref} :
    (g.restrict refs).IsSelected topic period s ↔ g.IsSelected topic period s := by
  constructor
  · rintro ⟨kind, ⟨e, he, about⟩, dated⟩
    refine ⟨kind, ⟨e, (mem_edges_restrict.1 he).1, about⟩, fun p hp => ?_⟩
    obtain ⟨n, found, carries⟩ := dated p hp
    rw [keyed.node?_restrict] at found
    split at found
    · exact ⟨n, found, carries⟩
    · cases found
  · intro selected
    have own : s ∈ refs := (near s).2 (.inl selected)
    have target : topic ∈ refs := (near topic).2 selected.isNear_target
    obtain ⟨kind, ⟨e, he, about⟩, dated⟩ := selected
    refine ⟨kind, ⟨e, mem_edges_restrict.2 ⟨he, ?_, ?_⟩, about⟩, fun p hp => ?_⟩
    · rw [about.2.1]
      exact own
    · rw [about.2.2]
      exact target
    · obtain ⟨n, found, carries⟩ := dated p hp
      refine ⟨n, ?_, carries⟩
      rw [keyed.node?_restrict, if_pos own]
      exact found

/-- In a restriction to what is near, the same is near. -/
theorem IsKeyed.isNear_restrict (keyed : g.IsKeyed)
    (near : ∀ r, r ∈ refs ↔ g.IsNear topic period r) :
    (g.restrict refs).IsNear topic period r ↔ g.IsNear topic period r := by
  have around : g.IsAround (g.restrict refs) topic period := keyed.isAround_restrict near
  refine or_congr (keyed.isSelected_restrict near) (exists_congr fun s => ?_)
  rw [keyed.isSelected_restrict near]
  refine and_congr_right fun selected => ?_
  rw [around.neighbors s selected]

/-- The part around a topic keeps in itself what it keeps in the graph. -/
theorem IsKeyed.mem_aroundRefs_aroundTopic (keyed : g.IsKeyed) (topic : String) :
    r ∈ (g.aroundTopic topic period).aroundRefs topic period ↔ r ∈ g.aroundRefs topic period := by
  rw [aroundTopic_eq_restrict, mem_aroundRefs, mem_aroundRefs]
  have contained : (g.restrict (g.aroundRefs topic period)).contains (topicRef topic) = true ↔
      topicRef topic ∈ g.aroundRefs topic period ∧ g.contains (topicRef topic) = true := by
    rw [contains_eq, keyed.node?_restrict, contains_eq]
    split
    · next mem => simp [mem]
    · next absent => simp [absent]
  have near (present : Text.normalize topic ≠ "" ∧ g.contains (topicRef topic) = true) (r : Ref) :
      r ∈ g.aroundRefs topic period ↔ g.IsNear (topicRef topic) period r := by
    rw [mem_aroundRefs, and_iff_right present]
  constructor
  · rintro ⟨⟨named, found⟩, inside⟩
    have present := And.intro named (contained.1 found).2
    exact ⟨present, (keyed.isNear_restrict (near present)).1 inside⟩
  · rintro ⟨present, inside⟩
    obtain ⟨s, selected⟩ := inside.exists_isSelected
    have kept := (near present _).2 selected.isNear_target
    have found := contained.2 ⟨kept, present.2⟩
    exact ⟨⟨present.1, found⟩, (keyed.isNear_restrict (near present)).2 inside⟩

theorem IsKeyed.aroundTopic_aroundTopic (keyed : g.IsKeyed) (topic : String)
    (period : Option Period) :
    (g.aroundTopic topic period).aroundTopic topic period = g.aroundTopic topic period := by
  have inner := isKeyed_restrict g (g.aroundRefs topic period)
  calc (g.aroundTopic topic period).aroundTopic topic period
      = (g.aroundTopic topic period).restrict
          ((g.aroundTopic topic period).aroundRefs topic period) :=
        aroundTopic_eq_restrict _ topic period
    _ = (g.restrict (g.aroundRefs topic period)).restrict
          ((g.aroundTopic topic period).aroundRefs topic period) := by
        rw [aroundTopic_eq_restrict g]
    _ = (g.restrict (g.aroundRefs topic period)).restrict (g.aroundRefs topic period) :=
        inner.restrict_congr fun r => keyed.mem_aroundRefs_aroundTopic topic
    _ = g.restrict (g.aroundRefs topic period) := keyed.restrict_restrict (List.Subset.refl _)
    _ = g.aroundTopic topic period := (aroundTopic_eq_restrict g topic period).symm

/-- The part of a graph around a topic is its own part around that topic.  It is included in the
part of any period that contains the period, and in the part without a period. -/
theorem isNested_aroundTopic (keyed : g.IsKeyed) (topic : String) :
    (∀ period, (g.aroundTopic topic period).aroundTopic topic period =
      g.aroundTopic topic period) ∧
    (∀ p q : Period, (∀ t, p.contains t = true → q.contains t = true) →
      (g.aroundTopic topic (some p)).IsIncludedIn (g.aroundTopic topic (some q))) ∧
    ∀ period, (g.aroundTopic topic period).IsIncludedIn (g.aroundTopic topic none) := by
  refine ⟨keyed.aroundTopic_aroundTopic topic, fun p q within => ?_, fun period => ?_⟩
  · refine keyed.isIncludedIn_aroundTopic topic fun post dated w hw => ?_
    cases hw
    exact (dated p rfl).mono within
  · exact keyed.isIncludedIn_aroundTopic topic fun post _ w hw => nomatch hw

/-- A post of the morning, one of the evening and one without a time, all with edges to the topic
and the first one with an edge to the second. -/
theorem isNested_aroundTopic_games :
    let posted (id time : String) : Node :=
      { kind := .post, id : Node }.set "timestamp" (.string time)
    let early := posted "p" "2024-03-01T08:00:00Z"
    let late := posted "q" "2024-03-01T20:00:00Z"
    let undated : Node := { kind := .post, id := "r" }
    let topic : Node := { kind := .topic, id := "games" }
    let joined (kind : EdgeKind) (source target : Ref) : Edge := { kind, source, target }
    let g := Graph.ofFragments [⟨[early, late, undated, topic],
      [joined .hasTopic early.ref topic.ref, joined .hasTopic late.ref topic.ref,
        joined .coOccurs early.ref late.ref, joined .hasTopic undated.ref topic.ref,
        joined .authoredBy early.ref ⟨.user, "ann"⟩]⟩]
    let morning : Period := .ofEnds ⟨1709276400, 0, by decide⟩ ⟨1709287200, 0, by decide⟩
    let onward : Period := ⟨some ⟨1709276400, 0, by decide⟩, none⟩
    let part := g.aroundTopic "games" (some morning)
    g.IsKeyed ∧ part.nodes.keys = ["Post:p", "Post:q", "Topic:games"] ∧
      part.aroundTopic "games" (some morning) = part ∧
      part.IsIncludedIn (g.aroundTopic "games" (some onward)) ∧
      (g.aroundTopic "games" (some onward)).IsIncludedIn (g.aroundTopic "games" none) ∧
      (g.aroundTopic "games" (some onward)).edges.length = 4 ∧
      (g.aroundTopic "games" none).edges.length = 5 := by
  intro posted early late undated topic joined g morning onward part
  have keyed : g.IsKeyed := by decide +kernel
  have ⟨again, within, without⟩ := isNested_aroundTopic keyed "games"
  have wider : ∀ t, morning.contains t = true → onward.contains t = true := by
    intro t inside
    have ⟨start, _⟩ := (Bool.and_eq_true _ _).mp inside
    exact (Bool.and_eq_true _ _).mpr ⟨start, rfl⟩
  exact ⟨keyed, by decide +kernel, again _, within morning onward wider, without _,
    by decide +kernel, by decide +kernel⟩

end KnowledgeGraph.Graph

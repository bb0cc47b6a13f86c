import Mathlib.Data.List.Basic
import KnowledgeGraph.Graph.Topic
import KnowledgeGraph.Proofs.Graph.Lookup
import KnowledgeGraph.Proofs.Graph.Neighbors

/-!
# Restrictions

A restriction of a graph has the nodes that some given references find in it, under their own keys,
and the edges between the references.  In a graph whose nodes stand under their own keys a
restriction finds what the graph finds (`IsKeyed.node?_restrict`).  In any other graph a reference
may find a node of another one (`exists_node?_restrict`).

The step from posts to what is next to them takes one end of every edge.  It asks whether the other
end is one of the posts, and not whether it was reached before, so it reaches the neighbors of the
posts and nothing else (`mem_around`).  The part of a graph around a topic is the restriction to the
references that are kept (`aroundTopic_eq_restrict`), also where it is empty.
-/

namespace KnowledgeGraph

namespace Graph

variable {g : Graph} {refs posts : List Ref} {r s : Ref} {n : Node}

/-! ## Nodes and edges -/

theorem isKeyed_restrict (g : Graph) (refs : List Ref) : (g.restrict refs).IsKeyed :=
  isKeyed_iff.2 fun _ _ found => (key_of_find?_nodeMap found).2

theorem node?_restrict (g : Graph) (refs : List Ref) (r : Ref) :
    (g.restrict refs).node? r = (refs.filterMap g.node?).find? (·.ref = r) :=
  find?_nodeMap_key _ _

theorem mem_edges_restrict {e : Edge} :
    e ∈ (g.restrict refs).edges ↔ e ∈ g.edges ∧ e.source ∈ refs ∧ e.target ∈ refs := by
  rw [restrict, List.mem_filter, Bool.and_eq_true, decide_eq_true_eq, decide_eq_true_eq]

/-- A restriction has a node of a reference exactly if one of the given references finds it. -/
theorem exists_node?_restrict : (∃ n, (g.restrict refs).node? r = some n) ↔
    ∃ s ∈ refs, ∃ n, g.node? s = some n ∧ n.ref = r := by
  rw [node?_restrict, ← Option.isSome_iff_exists, List.find?_isSome]
  constructor
  · rintro ⟨n, mem, same⟩
    obtain ⟨s, hs, found⟩ := List.mem_filterMap.1 mem
    exact ⟨s, hs, n, found, of_decide_eq_true same⟩
  · rintro ⟨s, hs, n, found, same⟩
    exact ⟨n, List.mem_filterMap.2 ⟨s, hs, found⟩, decide_eq_true same⟩

/-- A restriction has the nodes of the given references, as they are. -/
theorem IsKeyed.node?_restrict (keyed : g.IsKeyed) (refs : List Ref) (r : Ref) :
    (g.restrict refs).node? r = if r ∈ refs then g.node? r else none := by
  rw [Graph.node?_restrict]
  induction refs with
  | nil => simp
  | cons s refs ih =>
    rw [List.filterMap_cons]
    cases found : g.node? s with
    | none =>
      simp only [ih, List.mem_cons]
      by_cases eq : r = s
      · simp [eq, found]
      · simp [eq]
    | some n =>
      have own := keyed.ref_eq found
      simp only [List.find?_cons, own, List.mem_cons]
      by_cases eq : r = s
      · simp [eq, found]
      · simp [eq, Ne.symm eq, ih]

theorem eq_of_fields {h : Graph} (nodes : g.nodes = h.nodes) (edges : g.edges = h.edges)
    (version : g.schemaVersion = h.schemaVersion) : g = h := by
  cases g
  cases h
  cases nodes
  cases edges
  cases version
  rfl

/-- The nodes of a restriction are those of the graph that the references name. -/
theorem IsKeyed.nodes_restrict (keyed : g.IsKeyed) (refs : List Ref) :
    (g.restrict refs).nodes = g.nodes.filter fun n => n.ref ∈ refs := by
  refine KeyedMap.ext fun key => Option.ext fun n => ?_
  rw [KeyedMap.find?_filter, Option.filter_eq_some_iff, decide_eq_true_eq]
  constructor
  · intro found
    have own : n.ref.key = key := isKeyed_iff.1 (isKeyed_restrict g refs) key n found
    subst own
    have kept := (keyed.node?_restrict refs n.ref).symm.trans found
    split at kept
    · next mem => exact ⟨kept, mem⟩
    · cases kept
  · rintro ⟨found, mem⟩
    have own : n.ref.key = key := isKeyed_iff.1 keyed key n found
    subst own
    have kept := keyed.node?_restrict refs n.ref
    rw [if_pos mem] at kept
    exact kept.trans found

/-- A restriction depends on which references are given, and not on their order. -/
theorem IsKeyed.restrict_congr (keyed : g.IsKeyed) {refs' : List Ref}
    (same : ∀ r, r ∈ refs ↔ r ∈ refs') : g.restrict refs = g.restrict refs' := by
  have nodes : (g.restrict refs).nodes = (g.restrict refs').nodes := by
    rw [keyed.nodes_restrict, keyed.nodes_restrict]
    simp only [same]
  have edges : (g.restrict refs).edges = (g.restrict refs').edges := by
    simp only [restrict, same]
  exact eq_of_fields nodes edges rfl

/-- A restriction of a restriction to fewer references is one of the graph. -/
theorem IsKeyed.restrict_restrict (keyed : g.IsKeyed) {fewer : List Ref} (sub : fewer ⊆ refs) :
    (g.restrict refs).restrict fewer = g.restrict fewer := by
  have nodes : ((g.restrict refs).restrict fewer).nodes = (g.restrict fewer).nodes := by
    rw [(isKeyed_restrict g refs).nodes_restrict, keyed.nodes_restrict, keyed.nodes_restrict,
      KeyedMap.filter_filter]
    congr 1
    funext n
    rw [Bool.eq_iff_iff]
    simp only [Bool.and_eq_true, decide_eq_true_eq]
    exact ⟨And.right, fun mem => ⟨sub mem, mem⟩⟩
  have edges : ((g.restrict refs).restrict fewer).edges = (g.restrict fewer).edges := by
    rw [restrict, restrict, restrict, List.filter_filter]
    refine List.filter_congr fun e _ => ?_
    rw [Bool.eq_iff_iff]
    simp only [Bool.and_eq_true, decide_eq_true_eq]
    exact ⟨And.left, fun both => ⟨both, sub both.1, sub both.2⟩⟩
  exact eq_of_fields nodes edges rfl

/-- A node of a restriction is a node of the graph, as it is there. -/
theorem mem_values_restrict (mem : n ∈ (g.restrict refs).nodes.values) : n ∈ g.nodes.values := by
  obtain ⟨key, found⟩ := KeyedMap.mem_values_iff.1 mem
  obtain ⟨kept, -⟩ := key_of_find?_nodeMap found
  obtain ⟨r, -, found⟩ := List.mem_filterMap.1 kept
  exact mem_values_of_node? found

theorem restrict_nil (g : Graph) : g.restrict [] = empty := by
  have none : (g.edges.filter fun e => e.source ∈ ([] : List Ref) && e.target ∈ ([] : List Ref)) =
      [] := by
    rw [List.filter_eq_nil_iff]
    intro e _
    simp
  rw [restrict, none]
  rfl

/-! ## Neighbors -/

/-- What an edge reaches from the posts is joined to one of them. -/
theorem joins_of_reached? {e : Edge} (reached : reached? posts e = some r) :
    ∃ s ∈ posts, e.Joins s r := by
  unfold reached? at reached
  split at reached
  · next source =>
    cases reached
    exact ⟨e.source, source, .inl ⟨rfl, rfl⟩⟩
  · split at reached
    · next target =>
      cases reached
      exact ⟨e.target, target, .inr ⟨rfl, rfl⟩⟩
    · cases reached

/-- One step from the posts reaches their neighbors. -/
theorem mem_around :
    r ∈ g.around posts ↔ r ∈ posts ∨ ∃ s ∈ posts, r ∈ g.neighbors s := by
  rw [around, mem_distinct, List.mem_append, List.mem_filterMap]
  constructor
  · rintro (mem | ⟨e, he, reached⟩)
    · exact .inl mem
    · obtain ⟨s, hs, joins⟩ := joins_of_reached? reached
      exact .inr ⟨s, hs, mem_neighbors.2 ⟨e, he, joins⟩⟩
  · rintro (mem | ⟨s, hs, beside⟩)
    · exact .inl mem
    · obtain ⟨e, he, ⟨rfl, rfl⟩ | ⟨rfl, rfl⟩⟩ := mem_neighbors.1 beside
      · exact .inr ⟨e, he, if_pos hs⟩
      · -- An edge between two of the posts reaches its target only, but its source is there.
        by_cases source : e.source ∈ posts
        · exact .inl source
        · exact .inr ⟨e, he, by rw [reached?, if_neg source, if_pos hs]⟩

/-- A reference keeps its neighbors in every restriction that has all of them. -/
theorem neighbors_restrict (own : s ∈ refs) (all : ∀ r ∈ g.neighbors s, r ∈ refs) :
    (g.restrict refs).neighbors s = g.neighbors s := by
  rw [neighbors, neighbors, restrict, List.filterMap_filter]
  congr 1
  refine List.filterMap_congr fun e he => ?_
  cases other : e.otherEnd? s with
  | none => rw [ite_self]
  | some r =>
    have joins : e.Joins s r := Edge.otherEnd?_eq_some_iff.1 other
    have near : r ∈ refs := all r (mem_neighbors.2 ⟨e, he, joins⟩)
    obtain ⟨rfl, rfl⟩ | ⟨rfl, rfl⟩ := joins
    · simp [own, near]
    · simp [own, near]

/-! ## The part around a topic -/

/-- The references that the part around a topic keeps. -/
def aroundRefs (g : Graph) (topic : String) (period : Option Period) : List Ref :=
  if (topicRef topic).id = "" ∨ g.node? (topicRef topic) = none then []
  else g.around (g.topicPosts (topicRef topic) period)

theorem around_nil (g : Graph) : g.around [] = [] := by
  have none : g.edges.filterMap (reached? []) = [] := by
    rw [List.filterMap_eq_nil_iff]
    intro e _
    simp [reached?]
  rw [around, none]
  rfl

/-- The part around a topic is a restriction, also where it is empty. -/
theorem aroundTopic_eq_restrict (g : Graph) (topic : String) (period : Option Period) :
    g.aroundTopic topic period = g.restrict (g.aroundRefs topic period) := by
  simp only [aroundTopic, contains_eq, aroundRefs]
  generalize topicRef topic = ref
  by_cases named : ref.id = ""
  · simp [named, restrict_nil]
  · by_cases found : g.node? ref = none
    · simp [found, restrict_nil]
    · have there : (g.node? ref).isSome = true := Option.isSome_iff_ne_none.2 found
      cases posts : g.topicPosts ref period <;>
        simp [named, found, there, around_nil, restrict_nil]

/-- A node of the part around a topic is a node of the graph, as it is there. -/
theorem mem_values_aroundTopic {topic : String} {period : Option Period}
    (mem : n ∈ (g.aroundTopic topic period).nodes.values) : n ∈ g.nodes.values := by
  rw [aroundTopic_eq_restrict] at mem
  exact mem_values_restrict mem

end Graph

end KnowledgeGraph

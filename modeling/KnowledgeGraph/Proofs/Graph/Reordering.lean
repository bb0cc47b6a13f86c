import KnowledgeGraph.Proofs.Graph.Append
import KnowledgeGraph.Proofs.Keyword.Weighting

/-!
# Records in another order

The first node of a key stays, so the order of the records decides which properties a node has.
It decides nothing else.  The keys are those of all nodes that any record gives
(`Graph.keys_ofFragments_perm`), and every record gives its own edges, one after the other
(`Graph.edges_ofFragments_perm`).

The edges of a post carry weights that depend on the other posts.  They do so through the rarity
of keywords only, and that counts the posts without looking at their order
(`rarity_statisticsOf_perm`).  So a graph of posts in another order has the same keys and the same
edges (`Graph.ofPosts_perm`).
-/

namespace KnowledgeGraph

open KnowledgeGraph.Graph (Fragment)

/-! ## Fragments in another order -/

namespace Graph

variable {fs gs : List Fragment}

theorem contains_nodes_ofFragments (fs : List Fragment) (key : String) :
    (ofFragments fs).nodes.contains key = true ↔ ∃ f ∈ fs, ∃ n ∈ f.nodes, n.key = key := by
  rw [KeyedMap.contains, find?_nodes_ofFragments, List.find?_isSome]
  constructor
  · rintro ⟨n, mem, same⟩
    obtain ⟨f, hf, hn⟩ := List.mem_flatMap.1 mem
    exact ⟨f, hf, n, hn, eq_of_beq same⟩
  · rintro ⟨f, hf, n, hn, rfl⟩
    exact ⟨n, List.mem_flatMap.2 ⟨f, hf, hn⟩, beq_self_eq_true _⟩

theorem keys_ofFragments_perm (h : fs.Perm gs) :
    (ofFragments fs).nodes.keys = (ofFragments gs).nodes.keys := by
  refine KeyedMap.keys_ext fun key => ?_
  rw [contains_nodes_ofFragments, contains_nodes_ofFragments]
  constructor
  · rintro ⟨f, hf, given⟩
    exact ⟨f, h.mem_iff.1 hf, given⟩
  · rintro ⟨f, hf, given⟩
    exact ⟨f, h.mem_iff.2 hf, given⟩

theorem edges_ofFragments_perm (h : fs.Perm gs) :
    (ofFragments fs).edges.Perm (ofFragments gs).edges :=
  h.flatMap_right _

end Graph

/-! ## Weights in another order -/

variable {settings : Settings}

theorem rarity_statisticsOf_perm {plans others : List PlannedPost} (h : plans.Perm others)
    (k : String) : (statisticsOf plans).rarity k = (statisticsOf others).rarity k := by
  rw [statisticsOf_eq_observeAll, statisticsOf_eq_observeAll]
  exact Keyword.Statistics.rarity_observeAll_perm (h.map _) k

/-- A plan gives the same fragment, whatever the order of the plans around it is. -/
theorem fragment_perm {plans others : List PlannedPost} (h : plans.Perm others)
    (steady : settings.IgnoresNow) (now later : Instant) (plan : PlannedPost) :
    plan.fragment (.of now settings plans) = plan.fragment (.of later settings others) := by
  refine plan.fragment_congr rfl ?_ (steady.decay_eq now later) rfl
  intro _ k _
  exact rarity_statisticsOf_perm h k.node.id

/-! ## Posts in another order -/

namespace Graph

/-- Where ages do not depend on the clock, the graphs of the same posts in two orders have the same
keys, and the same edges up to their order, each with all its properties. -/
theorem ofPosts_perm (steady : settings.IgnoresNow) {ps qs : List Post} (h : ps.Perm qs)
    (now later : Instant) :
    (ofPosts now settings ps).nodes.keys = (ofPosts later settings qs).nodes.keys ∧
      (ofPosts now settings ps).edges.Perm (ofPosts later settings qs).edges := by
  have plans : (plansOf settings ps).Perm (plansOf settings qs) := h.filterMap _
  have same : PlannedPost.fragment (.of now settings (plansOf settings ps)) =
      PlannedPost.fragment (.of later settings (plansOf settings qs)) := by
    funext plan
    exact fragment_perm plans steady now later plan
  have fragments :
      ((plansOf settings ps).map
        (PlannedPost.fragment (.of now settings (plansOf settings ps)))).Perm
      ((plansOf settings qs).map
        (PlannedPost.fragment (.of later settings (plansOf settings qs)))) := by
    rw [same]
    exact plans.map _
  exact ⟨keys_ofFragments_perm fragments, edges_ofFragments_perm fragments⟩

/-- Two posts of one name that share a keyword, in both orders.  The node of the post is that of
the first one, so it differs.  Keys and edges do not. -/
theorem ofPosts_perm_lottery :
    let settings : Settings := { tauDays := some 7.0, reference := some ⟨0, 0, by decide⟩ }
    let first : Post := { id := "p", platform := "a", keywords := ["Lottery"] }
    let second : Post := { id := "p", platform := "b", keywords := [" lottery"] }
    let early : Instant := ⟨1, 0, by decide⟩
    let late : Instant := ⟨2, 0, by decide⟩
    let g := ofPosts early settings [first, second]
    let h := ofPosts late settings [second, first]
    settings.IgnoresNow ∧ [first, second].Perm [second, first] ∧
      (g.node? ⟨.post, "p"⟩).bind (·.propertyText? "platform") = some "a" ∧
      (h.node? ⟨.post, "p"⟩).bind (·.propertyText? "platform") = some "b" ∧
      g.edges.length = 2 ∧ g.nodes.keys = h.nodes.keys ∧ g.edges.Perm h.edges := by
  intro settings first second early late g h
  have steady : settings.IgnoresNow := .inr rfl
  have perm : [first, second].Perm [second, first] := .swap second first []
  refine ⟨steady, perm, ?_, ?_, by decide +kernel, ofPosts_perm steady perm early late⟩
  · show ((ofPosts early settings [first, second]).node? _).bind _ = _
    rw [ofPosts, node?_ofFragments]
    decide +kernel
  · show ((ofPosts late settings [second, first]).node? _).bind _ = _
    rw [ofPosts, node?_ofFragments]
    decide +kernel

end Graph

end KnowledgeGraph

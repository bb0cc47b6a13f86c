import KnowledgeGraph.Proofs.Graph.Report
import KnowledgeGraph.Proofs.Graph.Restriction

/-!
# Reports on the parts around topics

The part of a graph around a topic is a restriction to references (`aroundTopic_eq_restrict`).  An
edge is kept when both of its references are.  Its nodes are looked up by these references and
added under their own keys.  So the part is sound exactly when every end of an edge that is kept is
the reference of a node that was looked up (`isSound_restrict_iff`).

In a sound graph all ends are found, but what is found may be a node under a foreign key.  Such a
node is added under another key than the one that the edge leads to.  The part of a sound graph is
sound if its edges lead to nodes of exactly their references (`HasExactEnds`), as they do where
nodes stand under their own keys, and need not be otherwise (`not_isSound_aroundTopic`).
-/

namespace KnowledgeGraph.Graph

variable {g : Graph} {refs : List Ref}

/-! ## Restrictions of any graph -/

theorem refAt_mem_of_mem_edges_restrict {e : Edge} (he : e ∈ (g.restrict refs).edges)
    (side : Side) : e.refAt side ∈ refs := by
  have ⟨_, source, target⟩ := mem_edges_restrict.1 he
  cases side with
  | source => exact source
  | target => exact target

theorem isSound_restrict_iff : (g.restrict refs).report.isSound = true ↔
    ∀ e ∈ (g.restrict refs).edges, ∀ side, ∃ s ∈ refs, ∃ n,
      g.node? s = some n ∧ n.ref = e.refAt side := by
  rw [isSound_report_iff, and_iff_right (isKeyed_restrict g refs).hasDistinctNodes, ResolvesEnds]
  refine forall_congr' fun e => forall_congr' fun _ => forall_congr' fun side => ?_
  exact exists_node?_restrict

/-! ## Exact ends -/

/-- The nodes that edges lead to are of exactly the references of the edges. -/
def HasExactEnds (g : Graph) : Prop :=
  ∀ e ∈ g.edges, ∀ side, ∀ n ∈ g.node? (e.refAt side), n.ref = e.refAt side

instance (g : Graph) : Decidable g.HasExactEnds :=
  inferInstanceAs (Decidable (∀ e ∈ g.edges, ∀ side, ∀ n ∈ g.node? (e.refAt side), _ = _))

theorem IsKeyed.hasExactEnds (keyed : g.IsKeyed) : g.HasExactEnds :=
  fun _ _ _ _ found => keyed.ref_eq found

/-- Every restriction of a sound graph with exact ends is sound. -/
theorem isSound_restrict (sound : g.report.isSound = true) (exact_ends : g.HasExactEnds)
    (refs : List Ref) : (g.restrict refs).report.isSound = true := by
  have resolved := (isSound_report_iff.1 sound).2
  rw [isSound_restrict_iff]
  intro e he side
  have own := (mem_edges_restrict.1 he).1
  obtain ⟨n, found⟩ := resolved e own side
  exact ⟨e.refAt side, refAt_mem_of_mem_edges_restrict he side, n, found,
    exact_ends e own side n found⟩

/-- The part of a graph around a topic is sound exactly if every end of its edges is the reference
of a node that a reference which is kept finds in the graph.  So it is sound wherever the graph is
sound and its edges lead to nodes of exactly their references. -/
theorem isSound_aroundTopic (g : Graph) (topic : String) (period : Option Period) :
    ((g.aroundTopic topic period).report.isSound = true ↔
      ∀ e ∈ g.edges, e.source ∈ g.aroundRefs topic period →
        e.target ∈ g.aroundRefs topic period → ∀ side, ∃ s ∈ g.aroundRefs topic period, ∃ n,
          g.node? s = some n ∧ n.ref = e.refAt side) ∧
    (g.report.isSound = true → g.HasExactEnds →
      (g.aroundTopic topic period).report.isSound = true) := by
  rw [aroundTopic_eq_restrict]
  constructor
  · rw [isSound_restrict_iff]
    refine forall_congr' fun e => ?_
    rw [mem_edges_restrict, and_imp, and_imp]
  · intro sound exact_ends
    exact isSound_restrict sound exact_ends _

/-- A post and its topic.  A user stands under a foreign key, but no edge leads there. -/
theorem isSound_aroundTopic_games :
    let post : Node := { kind := .post, id := "p" }
    let topic : Node := { kind := .topic, id := "games" }
    let user : Node := { kind := .user, id := "ann" }
    let about : Edge := { kind := .hasTopic, source := post.ref, target := topic.ref }
    let nodes := ((empty.insertNode post).insertNode topic).replaceNode "User:bob" user
    let g := nodes.appendEdge about
    g.report.isSound = true ∧ g.HasExactEnds ∧ ¬ g.IsKeyed ∧
      (g.aroundTopic "Games" none).report.isSound = true ∧
      (g.aroundTopic "Games" none).edges.length = 1 := by
  intro post topic user about nodes g
  have sound : g.report.isSound = true := by decide +kernel
  have exact_ends : g.HasExactEnds := by decide +kernel
  have foreign : ¬ g.IsKeyed := by decide +kernel
  exact ⟨sound, exact_ends, foreign, (isSound_aroundTopic g "Games" none).2 sound exact_ends,
    by decide +kernel⟩

/-- The part of a sound graph around a topic need not be sound.  The key of the topic finds another
topic, which the part has under its own key, so the edge to the topic leads nowhere there. -/
theorem not_isSound_aroundTopic :
    ¬ ∀ (g : Graph) (topic : String) (period : Option Period), g.report.isSound = true →
      (g.aroundTopic topic period).report.isSound = true := by
  intro claim
  let post : Node := { kind := .post, id := "p" }
  let other : Node := { kind := .topic, id := "other" }
  let about : Edge := { kind := .hasTopic, source := post.ref, target := ⟨.topic, "games"⟩ }
  let g := ((empty.insertNode post).replaceNode "Topic:games" other).appendEdge about
  have sound : g.report.isSound = true := by decide +kernel
  have broken : (g.aroundTopic "games" none).report.isSound = false := by decide +kernel
  have kept := claim g "games" none sound
  rw [broken] at kept
  cases kept

end KnowledgeGraph.Graph

import Mathlib.Data.List.Perm.Basic
import KnowledgeGraph.Proofs.Graph.Steps
import KnowledgeGraph.Proofs.Graph.WellFormed

/-!
# Unions

On the nodes, a union is the union of two maps in which the first one wins: it is associative, the
empty map is neutral, and a second union with the same map adds nothing.  Two orders of the maps
give the same keys, but the node of a shared key is another one.  On the edges it is the
concatenation of two lists, which keeps repeats, so only the nodes of `g.union g` are those of `g`.

A union keeps the version of the schema of its first graph, so the empty graph is a left identity
only among graphs of that version.  A union of sound graphs is sound only if a node stands under
its own key: otherwise the two graphs may have one node under two keys.  Graphs that are built up
in steps satisfy both (`IsStepwise`), and the graphs of a corpus are of that sort
(`isStepwise_whole`).
-/

namespace KnowledgeGraph

/-! ## Maps -/

namespace KeyedMap

variable {α : Type}

theorem union_assoc (l m n : KeyedMap α) : (l.union m).union n = l.union (m.union n) := by
  refine ext fun key => ?_
  simp only [find?_union, Option.or_assoc]

theorem empty_union (m : KeyedMap α) : empty.union m = m := by
  refine ext fun key => ?_
  rw [find?_union, find?_empty, Option.none_or]

theorem union_empty (m : KeyedMap α) : m.union empty = m := by
  refine ext fun key => ?_
  rw [find?_union, find?_empty, Option.or_none]

theorem union_self (m : KeyedMap α) : m.union m = m := by
  refine ext fun key => ?_
  rw [find?_union, Option.or_self]

/-- The order of two maps does not matter for the keys of their union. -/
theorem keys_union_comm (m n : KeyedMap α) : (m.union n).keys = (n.union m).keys := by
  refine keys_ext fun key => ?_
  rw [contains, contains, find?_union, find?_union, Option.isSome_or, Option.isSome_or,
    Bool.or_comm]

end KeyedMap

namespace Graph

variable {g h : Graph}

/-! ## Graphs -/

theorem union_assoc (a b c : Graph) : (a.union b).union c = a.union (b.union c) :=
  eq_of_fields (KeyedMap.union_assoc _ _ _) (List.append_assoc _ _ _) rfl

theorem empty_union (version : g.schemaVersion = empty.schemaVersion) : empty.union g = g :=
  eq_of_fields (KeyedMap.empty_union _) (List.nil_append _) version.symm

theorem union_empty (g : Graph) : g.union empty = g :=
  eq_of_fields (KeyedMap.union_empty _) (List.append_nil _) rfl

/-- If both ends of every edge are found in two graphs, they are found in the union. -/
theorem ResolvesEnds.union (hg : g.ResolvesEnds) (hh : h.ResolvesEnds) :
    (g.union h).ResolvesEnds := by
  refine resolvesEnds_iff.2 fun e he => ?_
  rw [contains_union, contains_union]
  rcases List.mem_append.1 he with he | he
  · have ⟨source, target⟩ := resolvesEnds_iff.1 hg e he
    simp [source, target]
  · have ⟨source, target⟩ := resolvesEnds_iff.1 hh e he
    simp [source, target]

/-- The union of sound graphs is sound if their nodes stand under their own keys. -/
theorem IsKeyed.isSound_union (hg : g.IsKeyed) (hh : h.IsKeyed) (soundG : g.report.isSound = true)
    (soundH : h.report.isSound = true) : (g.union h).report.isSound = true := by
  have resolved := (isSound_report_iff.1 soundG).2.union (isSound_report_iff.1 soundH).2
  exact isSound_report_iff.2 ⟨(hg.union hh).hasDistinctNodes, resolved⟩

/-- Without keys of their own, two sound graphs may have one node in two places. -/
example :
    let ann : Node := { kind := .user, id := "ann" }
    let g := empty.insertNode ann
    let h := empty.replaceNode "User:Ann" ann
    g.report.isSound = true ∧ h.report.isSound = true ∧ (g.union h).report.isSound = false := by
  decide +kernel

/-! ## Graphs built in steps -/

/-- A graph that is built up from nothing by inserted nodes, appended edges and unions. -/
def IsStepwise (g : Graph) : Prop := ∃ steps, ofSteps steps = g

theorem takeAll_append (g : Graph) (before after : List Step) :
    g.takeAll (before ++ after) = (g.takeAll before).takeAll after := by
  induction before generalizing g with
  | nil => rfl
  | cons step before ih => exact ih (g.take step)

theorem isStepwise_empty : empty.IsStepwise := ⟨[], rfl⟩

/-- A further step leads to a graph that is built in steps. -/
theorem IsStepwise.take (built : g.IsStepwise) (step : Step) : (g.take step).IsStepwise := by
  obtain ⟨steps, rfl⟩ := built
  exact ⟨steps ++ [step], takeAll_append empty steps [step]⟩

theorem IsStepwise.union (builtG : g.IsStepwise) (builtH : h.IsStepwise) :
    (g.union h).IsStepwise := by
  obtain ⟨steps, rfl⟩ := builtH
  exact builtG.take (.union steps)

theorem IsStepwise.isKeyed (built : g.IsStepwise) : g.IsKeyed := by
  obtain ⟨steps, rfl⟩ := built
  rw [ofSteps_eq]
  exact isKeyed_ofFragments _

theorem IsStepwise.schemaVersion_eq (built : g.IsStepwise) :
    g.schemaVersion = empty.schemaVersion := by
  obtain ⟨steps, rfl⟩ := built
  rw [ofSteps_eq]
  rfl

theorem offered_nodes (ns : List Node) : offered (ns.map .node) = ⟨ns, []⟩ := by
  induction ns with
  | nil => rfl
  | cons n ns ih => simp [offered, Step.offers, ih]

theorem offered_edges (es : List Edge) : offered (es.map .edge) = ⟨[], es⟩ := by
  induction es with
  | nil => rfl
  | cons e es ih => simp [offered, Step.offers, ih]

/-- A graph of fragments is built in steps: first all the nodes, and then all the edges. -/
theorem isStepwise_ofFragments (fs : List Fragment) : (ofFragments fs).IsStepwise := by
  refine ⟨(fs.flatMap (·.nodes)).map .node ++ (fs.flatMap (·.edges)).map .edge, ?_⟩
  rw [ofSteps_eq, offered_append, offered_nodes, offered_edges]
  simp [ofFragments]

/-- The graphs of a corpus are built in steps, and so is their union. -/
theorem isStepwise_whole (c : Corpus) (now : Instant) (settings : Settings) :
    (c.graphs now settings).whole.IsStepwise := by
  have social : (ofPosts now settings c.posts).IsStepwise := isStepwise_ofFragments _
  have market : (ofMarket c.market).IsStepwise := isStepwise_ofFragments _
  have policy : (ofPolicies c.policies).IsStepwise := isStepwise_ofFragments _
  exact (social.union market).union policy

/-- The laws of unions, for three graphs. -/
structure UnionLaws (a b c : Graph) : Prop where
  /-- The empty graph is built in steps. -/
  identity : empty.IsStepwise
  /-- The union of two graphs built in steps is built in steps. -/
  closed : (a.union b).IsStepwise
  /-- Three graphs can be united from either side. -/
  assoc : (a.union b).union c = a.union (b.union c)
  /-- The empty graph is neutral on the left. -/
  left_identity : empty.union a = a
  /-- The empty graph is neutral on the right. -/
  right_identity : a.union empty = a
  /-- A graph adds no node to itself, and changes none. -/
  nodes_self : (a.union a).nodes = a.nodes
  /-- Either order gives the same keys. -/
  keys_comm : (a.union b).nodes.keys = (b.union a).nodes.keys
  /-- Either order gives the same edges, each as often. -/
  edges_comm : (a.union b).edges.Perm (b.union a).edges
  /-- Sound graphs have a sound union. -/
  sound : a.report.isSound = true → b.report.isSound = true → (a.union b).report.isSound = true

end Graph

/-- A graph that has the nodes of three graphs, the first one that has a key winning, and their
edges one after the other. -/
structure CorpusGraphs.IsMergedIn (s : CorpusGraphs) (g : Graph) : Prop where
  /-- The first of the three graphs that has a node under a key gives it. -/
  nodes : ∀ key, g.nodes.find? key =
    [s.social, s.market, s.policy].findSome? fun family => family.nodes.find? key
  /-- The edges stand family by family. -/
  edges : g.edges = s.social.edges ++ s.market.edges ++ s.policy.edges

theorem CorpusGraphs.isMergedIn_whole (s : CorpusGraphs) : s.IsMergedIn s.whole where
  nodes key := by
    simp only [whole, Graph.union, KeyedMap.find?_union, List.findSome?_cons, List.findSome?_nil]
    cases s.social.nodes.find? key <;> cases s.market.nodes.find? key <;>
      cases s.policy.nodes.find? key <;> rfl
  edges := rfl

namespace Graph

variable {a b c : Graph}

/-- Graphs that are built in steps form a monoid under unions, which keep graphs sound, and the
three graphs of a corpus are united in order. -/
theorem IsStepwise.unionLaws (builtA : a.IsStepwise) (builtB : b.IsStepwise) :
    a.UnionLaws b c ∧ ∀ s : CorpusGraphs, s.IsMergedIn s.whole := by
  refine ⟨?_, CorpusGraphs.isMergedIn_whole⟩
  exact {
    identity := isStepwise_empty
    closed := builtA.union builtB
    assoc := union_assoc a b c
    left_identity := empty_union builtA.schemaVersion_eq
    right_identity := union_empty a
    nodes_self := KeyedMap.union_self a.nodes
    keys_comm := KeyedMap.keys_union_comm a.nodes b.nodes
    edges_comm := List.perm_append_comm
    sound := builtA.isKeyed.isSound_union builtB.isKeyed }

/-- Two sources name a user apart.  The union is sound, the first name stays, and a second union
with the first graph repeats its edge. -/
theorem IsStepwise.unionLaws_ann :
    let ann : Node := { kind := .user, id := "ann" }
    let post : Node := { kind := .post, id := "p1" }
    let wrote : Edge := { kind := .authoredBy, source := post.ref, target := ann.ref }
    let a := ofSteps [.node (ann.set "name" (.string "A.")), .node post, .edge wrote]
    let b := ofSteps [.node (ann.set "name" (.string "Ann"))]
    let united := a.union b
    (a.report.isSound = true ∧ b.report.isSound = true ∧ united.report.isSound = true) ∧
      (united.node? ann.ref).bind (·.propertyText? "name") = some "A." ∧
      a.UnionLaws b united ∧ (united.union a).edges = [wrote, wrote] := by
  intro ann post wrote a b united
  have ⟨laws, _⟩ := IsStepwise.unionLaws (a := a) (b := b) (c := united) ⟨_, rfl⟩ ⟨_, rfl⟩
  have soundA : a.report.isSound = true := by decide +kernel
  have soundB : b.report.isSound = true := by decide +kernel
  exact ⟨⟨soundA, soundB, laws.sound soundA soundB⟩, by decide +kernel, laws, rfl⟩

end Graph

end KnowledgeGraph

import KnowledgeGraph.Graph.OfCorpus
import KnowledgeGraph.Proofs.Graph.PlannedPost

/-!
# Records in two lists

The graph of the records of two lists is the union of the graphs of the lists.  Fragments that are
added one after the other are added list by list (`Graph.ofFragments_append`), and a point of market
data or a document of policy gives its fragment by itself.

The fragment of a post is its own only as far as its edges do not depend on the other posts
(`PlannedPost.fragment_congr`).  Rarity does depend on them, and ages depend on the clock where no
reference is given.
-/

namespace KnowledgeGraph

open KnowledgeGraph.Graph (Fragment)

/-! ## Fragments -/

namespace Graph

/-- Nodes that are added one after the other are added part by part. -/
theorem nodeMap_append (ms ns : List Node) :
    nodeMap (ms ++ ns) = (nodeMap ms).union (nodeMap ns) := by
  refine KeyedMap.ext fun key => ?_
  rw [KeyedMap.find?_union, find?_nodeMap, find?_nodeMap, find?_nodeMap, List.find?_append]

/-- The graph of fragments in two lists is the union of the graphs of the lists. -/
theorem ofFragments_append (fs gs : List Fragment) :
    ofFragments (fs ++ gs) = (ofFragments fs).union (ofFragments gs) := by
  have nodes : nodeMap ((fs ++ gs).flatMap (·.nodes)) =
      (nodeMap (fs.flatMap (·.nodes))).union (nodeMap (gs.flatMap (·.nodes))) := by
    rw [List.flatMap_append, nodeMap_append]
  have edges : (fs ++ gs).flatMap (·.edges) = fs.flatMap (·.edges) ++ gs.flatMap (·.edges) :=
    List.flatMap_append
  show Graph.mk (nodeMap _) _ _ = Graph.mk (KeyedMap.union (nodeMap _) (nodeMap _)) (_ ++ _) _
  rw [nodes, edges]
  rfl

end Graph

/-! ## Edges of posts -/

/-- Ages do not depend on when a graph is made: weights do not decay, or a reference is given. -/
def Settings.IgnoresNow (c : Settings) : Prop := c.tau = none ∨ c.reference.isSome = true

theorem Settings.IgnoresNow.decay_eq {c : Settings} (h : c.IgnoresNow) (now later : Instant) :
    Decay.of? now c.tau c.reference = Decay.of? later c.tau c.reference := by
  rcases h with steady | given
  · rw [steady]
    rfl
  · obtain ⟨reference, eq⟩ := Option.isSome_iff_exists.1 given
    rw [eq]
    rfl

namespace PlannedPost

variable {w v : Weighting}

/-- The edge to a keyword depends on the other posts through the rarity of the keyword only. -/
theorem keywordEdge_congr (p : PlannedPost) (k : KeywordUse) (byRarity : w.byRarity = v.byRarity)
    (rarity : w.byRarity = true →
      w.statistics.rarity k.node.id = v.statistics.rarity k.node.id)
    (decay : w.decay = v.decay) : p.keywordEdge w k = p.keywordEdge v k := by
  simp only [keywordEdge, ← byRarity, ← decay]
  cases weighs : w.byRarity with
  | false => simp only [Bool.false_eq_true, if_false]
  | true => rw [rarity weighs]

/-- A plan gives the same under two weightings that agree on its keywords. -/
theorem fragment_congr (p : PlannedPost) (byRarity : w.byRarity = v.byRarity)
    (rarity : w.byRarity = true → ∀ k ∈ p.keywords,
      w.statistics.rarity k.node.id = v.statistics.rarity k.node.id)
    (decay : w.decay = v.decay) (window : w.window = v.window) :
    p.fragment w = p.fragment v := by
  have keywords : p.keywords.map (p.keywordEdge w) = p.keywords.map (p.keywordEdge v) :=
    List.map_congr_left fun k mem =>
      p.keywordEdge_congr k byRarity (fun weighs => rarity weighs k mem) decay
  have pairs : p.pairEdge w = p.pairEdge v := by
    funext pair
    rw [pairEdge, window, pairEdge]
  rw [fragment, edges, keywords, pairs, window, fragment, edges]

end PlannedPost

/-! ## The three families -/

namespace Graph

theorem ofPolicies_append (rs qs : List PolicyDocument) :
    ofPolicies (rs ++ qs) = (ofPolicies rs).union (ofPolicies qs) := by
  rw [ofPolicies, List.filterMap_append, ofFragments_append, ofPolicies, ofPolicies]

theorem ofMarket_append (rs qs : List MarketPoint) :
    ofMarket (rs ++ qs) = (ofMarket rs).union (ofMarket qs) := by
  rw [ofMarket, List.filterMap_append, ofFragments_append, ofMarket, ofMarket]

/-- Where rarity does not count and ages do not depend on the clock, every post gives its fragment
by itself. -/
theorem ofPosts_eq_of_plain {settings : Settings} (plain : settings.weighRarity = false)
    (steady : settings.IgnoresNow) (now later : Instant) (plans : List PlannedPost)
    (posts : List Post) :
    ofPosts now settings posts = ofFragments
      ((plansOf settings posts).map (PlannedPost.fragment (.of later settings plans))) := by
  rw [ofPosts]
  congr 1
  refine List.map_congr_left fun p _ => ?_
  refine p.fragment_congr rfl (fun weighs => ?_) (steady.decay_eq now later) rfl
  have off : false = true := plain.symm.trans weighs
  cases off

theorem ofPosts_append {settings : Settings} (plain : settings.weighRarity = false)
    (steady : settings.IgnoresNow) (now first second : Instant) (ps qs : List Post) :
    ofPosts now settings (ps ++ qs) =
      (ofPosts first settings ps).union (ofPosts second settings qs) := by
  rw [ofPosts_eq_of_plain plain steady now now [], ofPosts_eq_of_plain plain steady first now [],
    ofPosts_eq_of_plain plain steady second now [], plansOf, List.filterMap_append,
    List.map_append, ofFragments_append]

/-- The graph of records in two lists is the union of the graphs of the lists, made at any time: for
documents of policy, for market data, and for posts where rarity does not count and ages do not
depend on the clock. -/
theorem ofRecords_append :
    (∀ rs qs : List PolicyDocument,
      ofPolicies (rs ++ qs) = (ofPolicies rs).union (ofPolicies qs)) ∧
    (∀ rs qs : List MarketPoint, ofMarket (rs ++ qs) = (ofMarket rs).union (ofMarket qs)) ∧
    ∀ settings : Settings, settings.weighRarity = false → settings.IgnoresNow →
      ∀ (now first second : Instant) (ps qs : List Post),
        ofPosts now settings (ps ++ qs) =
          (ofPosts first settings ps).union (ofPosts second settings qs) :=
  ⟨ofPolicies_append, ofMarket_append, fun _ plain steady => ofPosts_append plain steady⟩

/-- Two posts of one name in two lists, about one topic.  The node of the first one stays, and both
have an edge to the topic. -/
theorem ofRecords_append_games :
    let settings : Settings :=
      { weighRarity := false, tauDays := some 7.0, reference := some ⟨0, 0, by decide⟩ }
    let first : List Post := [{ id := "p", platform := "a", topic := some "Games" }]
    let second : List Post :=
      [{ id := "p", platform := "b", topic := some " games", username := some "Ann" }]
    let early : Instant := ⟨1, 0, by decide⟩
    let late : Instant := ⟨2, 0, by decide⟩
    let whole := ofPosts late settings (first ++ second)
    settings.weighRarity = false ∧ settings.IgnoresNow ∧
      whole = (ofPosts early settings first).union (ofPosts late settings second) ∧
      (whole.node? ⟨.post, "p"⟩).bind (·.propertyText? "platform") = some "a" ∧
      whole.nodes.size = 3 ∧ whole.edges.length = 3 := by
  intro settings first second early late whole
  have steady : settings.IgnoresNow := .inr rfl
  refine ⟨rfl, steady, ?_, by decide +kernel, by decide +kernel, by decide +kernel⟩
  exact ofRecords_append.2.2 settings rfl steady late early late first second

end Graph

end KnowledgeGraph

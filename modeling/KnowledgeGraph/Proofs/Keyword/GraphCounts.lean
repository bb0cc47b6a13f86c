import Mathlib.Data.List.Perm.Subperm
import KnowledgeGraph.Proofs.Graph.PostNodes
import KnowledgeGraph.Proofs.Keyword.Weighting

/-!
# Statistics and the graph

Weights depend on counts: of all posts, of the posts that have a keyword, and of the keywords of a
post.  The same counts can be read off the finished graph, where they are numbers of nodes and
edges.  The two agree exactly if no two posts have one name (`countsAgree_iff`).  Posts of one name
share a node, whose properties are those of the first one, but every one of them is counted and
gives edges.
-/

namespace KnowledgeGraph

/-! ## Rarity by numbers -/

namespace Keyword

/-- The rarity of a keyword that `having` of `total` posts have. -/
def rarityOf (total having : Nat) : Float :=
  if total ≤ max having 1 then 1.0
  else 1.0 + (Float.ofNat total / Float.ofNat (max having 1)).log

theorem Statistics.rarity_eq (s : Statistics) (keyword : String) :
    s.rarity keyword = rarityOf s.total (s.postCount keyword) := rfl

end Keyword

/-! ## Counts in a graph -/

namespace Graph

variable (g : Graph)

/-- The number of posts. -/
def postTotal : Nat := (g.nodesOf .post).length

/-- A post has an edge to a keyword. -/
def Mentions (post keyword : Ref) : Prop :=
  ∃ e ∈ g.edgesOf .mentionsKeyword, e.source = post ∧ e.target = keyword

instance (post keyword : Ref) : Decidable (g.Mentions post keyword) :=
  inferInstanceAs (Decidable (∃ e ∈ g.edgesOf .mentionsKeyword, _ ∧ _))

/-- The number of posts with an edge to a keyword. -/
def postsMentioning (keyword : Ref) : Nat :=
  (g.nodesOf .post).countP fun n => g.Mentions n.ref keyword

/-- The number of edges from a post to keywords. -/
def keywordDegree (post : Ref) : Nat := (g.edgesOf .mentionsKeyword).countP (·.source = post)

/-- How rare a keyword is among the posts. -/
def rarity (keyword : Ref) : Float :=
  Keyword.rarityOf g.postTotal (g.postsMentioning keyword)

end Graph

/-- The counts that weights are made of are those of the graph. -/
structure CountsAgree (now : Instant) (settings : Settings) (posts : List Post) : Prop where
  /-- The total is the number of posts. -/
  total : (statisticsOf (plansOf settings posts)).total =
    (Graph.ofPosts now settings posts).postTotal
  /-- The count of a keyword is the number of posts with an edge to it. -/
  postCount : ∀ keyword : String, (statisticsOf (plansOf settings posts)).postCount keyword =
    (Graph.ofPosts now settings posts).postsMentioning ⟨.keyword, keyword⟩
  /-- The count that a post carries is the number of edges from it to keywords. -/
  keywordCount : ∀ n ∈ (Graph.ofPosts now settings posts).nodesOf .post,
    n.properties.find? "keyword_count" =
      some (.ofNat ((Graph.ofPosts now settings posts).keywordDegree n.ref))
  /-- Where rarity counts, every edge to a keyword says how rare the keyword is in the graph. -/
  idf : settings.weighRarity = true →
    ∀ e ∈ (Graph.ofPosts now settings posts).edgesOf .mentionsKeyword,
      e.properties.find? "idf" =
        some (.ofFloat ((Graph.ofPosts now settings posts).rarity e.target))

variable {now : Instant} {settings : Settings} {posts : List Post}

/-! ## The total -/

theorem total_statisticsOf (settings : Settings) (posts : List Post) :
    (statisticsOf (plansOf settings posts)).total =
      (posts.filterMap Post.identifier?).length := by
  rw [(statisticsOf_plansOf settings posts "").1, ← map_fst_namedPosts, List.length_map]

/-- Where names do not repeat, they are the identifiers of the nodes of posts. -/
theorem Graph.ids_ofPosts_perm (nodup : (posts.filterMap Post.identifier?).Nodup) :
    (((Graph.ofPosts now settings posts).nodesOf .post).map (·.id)).Perm
      (posts.filterMap Post.identifier?) :=
  (List.perm_ext_iff_of_nodup ((isKeyed_ofFragments _).nodup_ids .post) nodup).2
    fun _ => mem_ids_ofPosts

/-- There are as many posts as names exactly if names do not repeat. -/
theorem Graph.postTotal_ofPosts_iff (now : Instant) (settings : Settings) (posts : List Post) :
    (Graph.ofPosts now settings posts).postTotal = (posts.filterMap Post.identifier?).length ↔
      (posts.filterMap Post.identifier?).Nodup := by
  have ids : (Graph.ofPosts now settings posts).postTotal =
      (((Graph.ofPosts now settings posts).nodesOf .post).map (·.id)).length := by
    rw [List.length_map, postTotal]
  have keyed : (Graph.ofPosts now settings posts).IsKeyed := isKeyed_ofFragments _
  have distinct := keyed.nodup_ids .post
  rw [ids]
  constructor
  · -- Nodes do not repeat and have names of posts only, so as many of them as names are all names.
    intro same
    have sub := List.subperm_of_subset distinct fun _ mem => mem_ids_ofPosts.1 mem
    exact (sub.perm_of_length_le same.ge).nodup distinct
  · intro nodup
    exact (ids_ofPosts_perm nodup).length_eq

/-! ## Edges to keywords -/

/-- The ends of the edges to keywords, post by post. -/
theorem Graph.ends_mentionsKeyword (now : Instant) (settings : Settings) (posts : List Post) :
    ((Graph.ofPosts now settings posts).edgesOf .mentionsKeyword).map
        (fun e => (e.source, e.target)) =
      (namedPosts posts).flatMap fun q => (Keyword.ofPost settings q.2).map fun s =>
        (⟨.post, q.1⟩, q.2.keywordRef settings s) := by
  rw [edgesOf_ofPosts, List.map_flatMap, List.flatMap_def, List.flatMap_def]
  congr 1
  refine map_plansOf fun p _ plan plans => ?_
  rw [PlannedPost.edgesFor, plans.keywords, Post.keywordUses, List.map_map, List.map_map]
  refine List.map_congr_left fun s _ => ?_
  simp [← plans.post_eq]

/-- A post has an edge to the keywords that a post of its name keeps, and to no others. -/
theorem Graph.mentions_ofPosts {id keyword : String} :
    (Graph.ofPosts now settings posts).Mentions ⟨.post, id⟩ ⟨.keyword, keyword⟩ ↔
      ∃ q ∈ namedPosts posts, q.1 = id ∧ keyword ∈ q.2.keywordIds settings := by
  have ends : (Graph.ofPosts now settings posts).Mentions ⟨.post, id⟩ ⟨.keyword, keyword⟩ ↔
      ((⟨.post, id⟩, ⟨.keyword, keyword⟩) : Ref × Ref) ∈
        ((Graph.ofPosts now settings posts).edgesOf .mentionsKeyword).map
          fun e => (e.source, e.target) := by
    simp [Mentions]
  rw [ends, ends_mentionsKeyword, List.mem_flatMap]
  refine exists_congr fun q => and_congr_right fun _ => ?_
  simp [Post.keywordIds, Post.keywordRef, eq_comm, and_left_comm]

/-- Where names do not repeat, the posts with an edge to a keyword are those that keep it. -/
theorem Graph.postsMentioning_ofPosts (now : Instant) (settings : Settings)
    (nodup : (posts.filterMap Post.identifier?).Nodup) (keyword : String) :
    (Graph.ofPosts now settings posts).postsMentioning ⟨.keyword, keyword⟩ =
      postsKeeping settings posts keyword := by
  let mentioning (id : String) : Bool :=
    decide ((Graph.ofPosts now settings posts).Mentions ⟨.post, id⟩ ⟨.keyword, keyword⟩)
  have keeps : ∀ q ∈ namedPosts posts,
      mentioning q.1 = true ↔ decide (keyword ∈ q.2.keywordIds settings) = true := by
    intro q hq
    rw [decide_eq_true_eq, decide_eq_true_eq, mentions_ofPosts]
    constructor
    · rintro ⟨r, hr, same, kept⟩
      rw [← map_fst_namedPosts] at nodup
      rwa [← List.inj_on_of_nodup_map nodup hr hq same]
    · intro kept
      exact ⟨q, hq, rfl, kept⟩
  calc (Graph.ofPosts now settings posts).postsMentioning ⟨.keyword, keyword⟩
      = (((Graph.ofPosts now settings posts).nodesOf .post).map (·.id)).countP mentioning := by
        rw [postsMentioning, List.countP_map]
        refine List.countP_congr fun n mem => ?_
        have kind : n.kind = .post := by simpa using (List.mem_filter.1 mem).2
        simp [mentioning, Node.ref, kind]
    _ = (posts.filterMap Post.identifier?).countP mentioning :=
        (ids_ofPosts_perm nodup).countP_eq mentioning
    _ = (namedPosts posts).countP fun q => mentioning q.1 := by
        rw [← map_fst_namedPosts, List.countP_map]
        rfl
    _ = postsKeeping settings posts keyword := List.countP_congr keeps

/-- Where keys do not repeat and elements tell the key that they come from, the elements of one key
are those that come from it. -/
theorem countP_flatMap_of_key {α β κ : Type} {key : α → κ} {f : α → List β} {test : β → Bool}
    {as : List α} {a : α} (nodup : (as.map key).Nodup) (mem : a ∈ as)
    (own : ∀ b ∈ f a, test b = true)
    (others : ∀ c ∈ as, key c ≠ key a → ∀ b ∈ f c, test b = false) :
    (as.flatMap f).countP test = (f a).length := by
  have none {cs : List α} (sub : cs ⊆ as) (ne : ∀ c ∈ cs, key c ≠ key a) :
      (cs.flatMap f).countP test = 0 := by
    refine List.countP_eq_zero.2 fun b hb => ?_
    obtain ⟨c, hc, hb⟩ := List.mem_flatMap.1 hb
    simp [others c (sub hc) (ne c hc) b hb]
  obtain ⟨before, after, rfl⟩ := List.append_of_mem mem
  have different : ∀ c ∈ before ++ after, key c ≠ key a := by
    have shifted : (key a :: (before ++ after).map key).Nodup := by
      rw [List.map_append, List.map_cons, List.nodup_middle, ← List.map_append] at nodup
      exact nodup
    intro c hc eq
    exact (List.nodup_cons.1 shifted).1 (eq ▸ List.mem_map_of_mem hc)
  rw [List.flatMap_append, List.flatMap_cons, List.countP_append, List.countP_append,
    none (by simp) fun c hc => different c (List.mem_append_left _ hc),
    none (by simp) fun c hc => different c (List.mem_append_right _ hc),
    List.countP_eq_length.2 own]
  omega

/-- Where names do not repeat, a post has one edge for each keyword that it keeps. -/
theorem Graph.keywordDegree_ofPosts (now : Instant) (settings : Settings)
    (nodup : (posts.filterMap Post.identifier?).Nodup) {p : Post} {id : String} (hp : p ∈ posts)
    (named : p.identifier? = some id) :
    (Graph.ofPosts now settings posts).keywordDegree ⟨.post, id⟩ =
      (Keyword.ofPost settings p).length := by
  have ends : (Graph.ofPosts now settings posts).keywordDegree ⟨.post, id⟩ =
      (((Graph.ofPosts now settings posts).edgesOf .mentionsKeyword).map
        fun e => (e.source, e.target)).countP (·.1 = ⟨.post, id⟩) := by
    rw [keywordDegree, List.countP_map]
    rfl
  -- The edges of one source come from one post, because no other post has its name.
  rw [ends, ends_mentionsKeyword, ← List.length_map]
  rw [← map_fst_namedPosts] at nodup
  refine countP_flatMap_of_key nodup (mem_namedPosts hp named) ?_ ?_
  · simp
  · intro q _ ne
    simp [ne]

/-- Where names do not repeat, a post carries the number of its edges to keywords. -/
theorem Graph.find?_keywordCount_ofPosts (now : Instant) (settings : Settings)
    (nodup : (posts.filterMap Post.identifier?).Nodup) {n : Node}
    (mem : n ∈ (Graph.ofPosts now settings posts).nodesOf .post) :
    n.properties.find? "keyword_count" =
      some (.ofNat ((Graph.ofPosts now settings posts).keywordDegree n.ref)) := by
  obtain ⟨p, hp, named⟩ := List.mem_filterMap.1 (mem_ids_ofPosts.1 (List.mem_map_of_mem mem))
  obtain ⟨mem, kind⟩ := List.mem_filter.1 mem
  have ref : n.ref = ⟨.post, n.id⟩ := by rw [Node.ref, eq_of_beq kind]
  have found := (isKeyed_ofFragments _).node?_ref mem
  have node : n = p.postNode settings n.id (Keyword.ofPost settings p).length := by
    rw [ref, ← ofPosts, node?_ofPosts now settings nodup hp named] at found
    exact (Option.some.inj found).symm
  rw [ref, keywordDegree_ofPosts now settings nodup hp named, node, Post.postNode, Node.find?_set,
    if_pos rfl]

/-! ## Agreement -/

/-- Edges to keywords say how rare a keyword is by the counts that they are made of. -/
theorem Graph.find?_idf_ofPosts (weighs : settings.weighRarity = true) {e : Edge}
    (he : e ∈ (Graph.ofPosts now settings posts).edgesOf .mentionsKeyword) :
    e.target.kind = .keyword ∧ e.properties.find? "idf" =
      some (.ofFloat ((statisticsOf (plansOf settings posts)).rarity e.target.id)) := by
  rw [edgesOf_ofPosts] at he
  obtain ⟨plan, hplan, he⟩ := List.mem_flatMap.1 he
  obtain ⟨p, -, plans⟩ := mem_plansOf hplan
  obtain ⟨k, hk, rfl⟩ := List.mem_map.1 he
  have keyword : k.node.kind = .keyword := by
    rw [plans.keywords] at hk
    obtain ⟨s, -, rfl⟩ := List.mem_map.1 hk
    rfl
  rw [PlannedPost.target_keywordEdge, PlannedPost.find?_idf_keywordEdge k weighs]
  exact ⟨keyword, rfl⟩

/-- The counts that weights are made of are those of the graph exactly if no two posts have one
name. -/
theorem countsAgree_iff (now : Instant) (settings : Settings) (posts : List Post) :
    CountsAgree now settings posts ↔ (posts.filterMap Post.identifier?).Nodup := by
  constructor
  · intro agree
    rw [← Graph.postTotal_ofPosts_iff now settings, ← agree.total, total_statisticsOf]
  · intro nodup
    have total : (statisticsOf (plansOf settings posts)).total =
        (Graph.ofPosts now settings posts).postTotal := by
      rw [total_statisticsOf, (Graph.postTotal_ofPosts_iff now settings posts).2 nodup]
    have postCount (keyword : String) : (statisticsOf (plansOf settings posts)).postCount keyword =
        (Graph.ofPosts now settings posts).postsMentioning ⟨.keyword, keyword⟩ := by
      rw [(statisticsOf_plansOf settings posts keyword).2,
        Graph.postsMentioning_ofPosts now settings nodup]
    refine ⟨total, postCount, fun n mem => Graph.find?_keywordCount_ofPosts now settings nodup mem,
      fun weighs e he => ?_⟩
    have ⟨kind, idf⟩ := Graph.find?_idf_ofPosts weighs he
    have target : e.target = ⟨.keyword, e.target.id⟩ := by rw [← kind]
    rw [idf, Keyword.Statistics.rarity_eq, total, postCount, ← target, Graph.rarity]

/-- The counts need not be those of the graph.  Two posts of one name are two posts to the
statistics and one node. -/
theorem not_countsAgree :
    ¬ ∀ (now : Instant) (settings : Settings) (posts : List Post),
      settings.weighRarity = true → CountsAgree now settings posts := by
  intro claim
  let posts : List Post := [{ id := "p", keywords := ["lottery"] }, { id := "p" }]
  let now : Instant := ⟨0, 0, by decide⟩
  have counted : (statisticsOf (plansOf {} posts)).total = 2 := by decide +kernel
  have nodes : (Graph.ofPosts now {} posts).postTotal = 1 := by decide +kernel
  have total := (claim now {} posts rfl).total
  rw [counted, nodes] at total
  cases total

end KnowledgeGraph

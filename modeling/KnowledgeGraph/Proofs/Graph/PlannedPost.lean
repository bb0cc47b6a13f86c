import Mathlib.Data.List.Basic
import KnowledgeGraph.Graph.OfPosts
import KnowledgeGraph.Proofs.Graph.Parts

/-!
# Planned posts

`PlannedPost.Plans` says once what the plan of a post holds, so nothing else opens
`PlannedPost.of?`, and `PlannedPost.NodeOf` says what its nodes stand for.  A plan has the nodes
that its edges join (`Plans.isClosed`), its only node of kind `post` is the one of the post
(`Plans.eq_postNode`), and the edges of one kind come from one part of it (`filter_edges`).
-/

namespace KnowledgeGraph

open KnowledgeGraph.Graph (Fragment)
open Text (presence?)

/-! ## Keywords in use -/

/-- The node that a kept keyword refers to. -/
def Post.keywordRef (settings : Settings) (p : Post) (s : Keyword.Slot) : Ref :=
  ⟨.keyword, keywordIdentifier s.normal (p.keywordLanguage settings)⟩

/-- The keywords that a post keeps, each with its node. -/
def Post.keywordUses (settings : Settings) (p : Post) : List KeywordUse :=
  (Keyword.ofPost settings p).map fun s => ⟨p.keywordRef settings s, s.occurrences⟩

theorem ref_keywordNode (settings : Settings) (p : Post) (s : Keyword.Slot) :
    (keywordNode (p.keywordLanguage settings) s).ref = p.keywordRef settings s := rfl

theorem ref_postNode (settings : Settings) (p : Post) (id : String) (count : Nat) :
    (p.postNode settings id count).ref = ⟨.post, id⟩ := by
  simp only [Post.postNode, Node.ref_set, Node.ref_setPresent]
  rfl

namespace PlannedPost

/-! ## What a plan holds -/

/-- The parts of the plan of a post. -/
structure Plans (settings : Settings) (p : Post) (plan : PlannedPost) : Prop where
  /-- The post has the identifier of its node. -/
  identifier : p.identifier? = some plan.post.id
  /-- The node of the post is of that kind. -/
  post : plan.post.kind = .post
  /-- The nodes, in the order of adding. -/
  nodes : plan.nodes =
    (Keyword.ofPost settings p).map (keywordNode (p.keywordLanguage settings)) ++
      (mentionedEntities p.entities).map (·.1) ++
      ((p.topic.bind presence?).map (labelNode .topic "label")).toList ++
      (presentTexts p.sentimentTags).map (labelNode .sentimentTag "label") ++
      ((p.username.bind presence?).map (userNode p.platform)).toList ++
      ((p.subreddit.bind communityName?).map (labelNode .subreddit "name")).toList ++
      [p.postNode settings plan.post.id (Keyword.ofPost settings p).length]
  /-- The time of the post. -/
  instant : plan.instant = p.instant?
  /-- The keywords that the post keeps. -/
  keywords : plan.keywords = p.keywordUses settings
  /-- The entities that the post mentions. -/
  entities : plan.entities = mentionedEntities p.entities
  /-- The topic. -/
  topic : plan.topic = (p.topic.bind presence?).map fun label => ⟨.topic, Text.normalize label⟩
  /-- The names of sentiments. -/
  sentiments : plan.sentiments =
    distinct ((presentTexts p.sentimentTags).map fun tag => ⟨.sentimentTag, Text.normalize tag⟩)
  /-- The orientation of the sentiment. -/
  orientation : plan.orientation = p.sentiment.bind presence?
  /-- The author. -/
  user : plan.user = (p.username.bind presence?).map fun name => ⟨.user, Text.normalize name⟩
  /-- The community. -/
  subreddit : plan.subreddit =
    (p.subreddit.bind communityName?).map fun name => ⟨.subreddit, Text.normalize name⟩

variable {settings : Settings} {p : Post} {plan : PlannedPost} {w : Weighting}

theorem zipWith_map_self {α β γ : Type} (f : β → α → γ) (g : α → β) (as : List α) :
    (as.map g).zipWith f as = as.map fun a => f (g a) a := by
  induction as with
  | nil => rfl
  | cons a as ih => simp [ih]

theorem ref_userNode (platform name : String) :
    (userNode platform name).ref = ⟨.user, Text.normalize name⟩ := by
  simp [userNode]

/-- A post has a plan exactly if it has a name, and then its plan holds its parts. -/
theorem plans_of_of? (h : of? settings p = some plan) : Plans settings p plan := by
  simp only [of?, Option.map_eq_some_iff] at h
  obtain ⟨id, identifier, rfl⟩ := h
  constructor
  case identifier => simp [ref_postNode, identifier]
  case post => simp [ref_postNode]
  case nodes => simp [ref_postNode]
  case instant => rfl
  case keywords => exact zipWith_map_self _ _ _
  case entities => rfl
  case topic => simp [Function.comp_def]
  case sentiments => simp [Function.comp_def]
  case orientation => rfl
  case user => simp [Function.comp_def, ref_userNode]
  case subreddit => simp [Function.comp_def]

theorem Plans.post_eq (h : Plans settings p plan) : plan.post = ⟨.post, plan.post.id⟩ := by
  rw [← h.post]

theorem isSome_of? (settings : Settings) (p : Post) :
    (of? settings p).isSome = p.identifier?.isSome := by
  simp [of?]

/-- A post with a name has a plan. -/
theorem exists_plan (settings : Settings) {p : Post} {id : String}
    (named : p.identifier? = some id) :
    ∃ plan, of? settings p = some plan ∧ plan.post = ⟨.post, id⟩ := by
  have planned := isSome_of? settings p
  rw [named] at planned
  obtain ⟨plan, eq⟩ := Option.isSome_iff_exists.1 planned
  have plans := plans_of_of? eq
  have own : plan.post.id = id := Option.some.inj (plans.identifier.symm.trans named)
  refine ⟨plan, eq, ?_⟩
  rw [← own, ← plans.post_eq]

/-! ## The nodes of a plan -/

/-- The references of the nodes of a plan. -/
theorem Plans.refs_nodes (h : Plans settings p plan) :
    plan.nodes.map Node.ref =
      plan.keywords.map (·.node) ++ plan.entities.map (·.1.ref) ++ plan.topic.toList ++
        (presentTexts p.sentimentTags).map (fun tag => ⟨.sentimentTag, Text.normalize tag⟩) ++
        plan.user.toList ++ plan.subreddit.toList ++ [plan.post] := by
  rw [h.nodes, h.keywords, h.entities, h.topic, h.user, h.subreddit]
  simp only [List.map_append, List.map_map, Option.toList_map, Post.keywordUses,
    Function.comp_def, ref_keywordNode, ref_labelNode, ref_userNode, ref_postNode,
    List.map_cons, List.map_nil]
  rw [← h.post_eq]

/-- The nodes that a post with a name gives, by what they stand for. -/
inductive NodeOf (settings : Settings) (p : Post) (id : String) : Node → Prop where
  /-- A keyword that the post keeps. -/
  | keyword (s : Keyword.Slot) : s ∈ Keyword.ofPost settings p →
      NodeOf settings p id (keywordNode (p.keywordLanguage settings) s)
  /-- An entity that the post mentions. -/
  | entity (m : Mention) (n : Node) : m ∈ p.entities → m.node? = some n → NodeOf settings p id n
  /-- The topic. -/
  | topic (label : String) : p.topic.bind presence? = some label →
      NodeOf settings p id (labelNode .topic "label" label)
  /-- The name of a sentiment. -/
  | sentiment (tag : String) : tag ∈ presentTexts p.sentimentTags →
      NodeOf settings p id (labelNode .sentimentTag "label" tag)
  /-- The author. -/
  | user (name : String) : p.username.bind presence? = some name →
      NodeOf settings p id (userNode p.platform name)
  /-- The community. -/
  | subreddit (name : String) : p.subreddit.bind communityName? = some name →
      NodeOf settings p id (labelNode .subreddit "name" name)
  /-- The post itself. -/
  | post : NodeOf settings p id (p.postNode settings id (Keyword.ofPost settings p).length)

/-- Every node of a plan stands for the post or for something that the post refers to. -/
theorem Plans.nodeOf (h : Plans settings p plan) {n : Node} (mem : n ∈ plan.nodes) :
    NodeOf settings p plan.post.id n := by
  rw [h.nodes] at mem
  simp only [List.mem_append, List.mem_map, Option.mem_toList, Option.map_eq_some_iff,
    List.mem_singleton] at mem
  rcases mem with (((((⟨s, kept, rfl⟩ | ⟨q, hq, rfl⟩) | ⟨label, has, rfl⟩) | ⟨tag, has, rfl⟩) |
    ⟨name, has, rfl⟩) | ⟨name, has, rfl⟩) | rfl
  · exact .keyword s kept
  · have ⟨mentioned, node⟩ := mem_mentionedEntities.1 hq
    exact .entity q.2 q.1 mentioned node
  · exact .topic label has
  · exact .sentiment tag has
  · exact .user name has
  · exact .subreddit name has
  · exact .post

/-- No node of a plan is bare. -/
theorem Plans.isBare (h : Plans settings p plan) : ∀ n ∈ plan.nodes, n.isBare = false := by
  intro n mem
  cases h.nodeOf mem with
  | keyword s _ => exact Node.isBare_set rfl
  | entity m n _ node => exact (Mention.ref_of_node? node).2
  | topic label _ => exact isBare_labelNode _ _ _
  | sentiment tag _ => exact isBare_labelNode _ _ _
  | user name _ => exact Node.isBare_setPresent (isBare_labelNode _ _ _)
  | subreddit name _ => exact isBare_labelNode _ _ _
  | post => exact Node.isBare_set rfl

/-- The only node of kind `post` in a plan is the one of the post. -/
theorem Plans.eq_postNode (h : Plans settings p plan) {n : Node} (mem : n ∈ plan.nodes)
    (kind : n.kind = .post) :
    n = p.postNode settings plan.post.id (Keyword.ofPost settings p).length := by
  cases h.nodeOf mem with
  | keyword s _ => cases kind
  | entity m n _ node =>
    rw [Mention.kind_of_node? node] at kind
    cases kind
  | topic label _ => cases kind
  | sentiment tag _ => cases kind
  | user name _ => simp [userNode] at kind
  | subreddit name _ => cases kind
  | post => rfl

theorem Plans.ref_eq_of_kind (h : Plans settings p plan) {n : Node} (mem : n ∈ plan.nodes)
    (kind : n.kind = .post) : n.ref = ⟨.post, plan.post.id⟩ := by
  rw [h.eq_postNode mem kind, ref_postNode]

/-! ## The edges of a plan -/

@[simp] theorem kind_keywordEdge (k : KeywordUse) :
    (plan.keywordEdge w k).kind = .mentionsKeyword := by
  unfold keywordEdge
  cases w.byRarity <;> cases w.decay <;> rfl

@[simp] theorem source_keywordEdge (k : KeywordUse) :
    (plan.keywordEdge w k).source = plan.post := by
  unfold keywordEdge
  cases w.byRarity <;> cases w.decay <;> rfl

@[simp] theorem target_keywordEdge (k : KeywordUse) :
    (plan.keywordEdge w k).target = k.node := by
  unfold keywordEdge
  cases w.byRarity <;> cases w.decay <;> rfl

/-- Where rarity counts, the edge to a keyword says how rare the keyword is. -/
theorem find?_idf_keywordEdge (k : KeywordUse) (weighs : w.byRarity = true) :
    (plan.keywordEdge w k).properties.find? "idf" =
      some (.ofFloat (w.statistics.rarity k.node.id)) := by
  unfold keywordEdge
  rw [weighs]
  cases w.decay <;> simp [Edge.setWeight, Edge.find?_set]

@[simp] theorem kind_pairEdge (pair : KeywordUse × KeywordUse) :
    (plan.pairEdge w pair).kind = .coOccurs := rfl

@[simp] theorem source_pairEdge (pair : KeywordUse × KeywordUse) :
    (plan.pairEdge w pair).source = pair.1.node := rfl

@[simp] theorem target_pairEdge (pair : KeywordUse × KeywordUse) :
    (plan.pairEdge w pair).target = pair.2.node := rfl

@[simp] theorem kind_sentimentEdge (tag : Ref) : (plan.sentimentEdge tag).kind = .hasSentiment := by
  simp [sentimentEdge]

@[simp] theorem source_sentimentEdge (tag : Ref) : (plan.sentimentEdge tag).source = plan.post := by
  simp [sentimentEdge]

@[simp] theorem target_sentimentEdge (tag : Ref) : (plan.sentimentEdge tag).target = tag := by
  simp [sentimentEdge]

/-- A pair begins with the first element, or both of its elements come later. -/
theorem mem_pairsWithin_cons {α : Type} {window : Option Nat} {a : α} {as : List α} {pair : α × α}
    (h : pair ∈ pairsWithin window (a :: as)) :
    (∃ b ∈ as, pair = (a, b)) ∨ pair ∈ pairsWithin window as := by
  simp only [pairsWithin] at h
  rcases List.mem_append.1 h with first | later
  · obtain ⟨b, mem, rfl⟩ := List.mem_map.1 first
    cases window with
    | none => exact .inl ⟨b, mem, rfl⟩
    | some n => exact .inl ⟨b, List.mem_of_mem_take mem, rfl⟩
  · exact .inr later

/-- Both elements of a pair are elements of the list. -/
theorem mem_of_mem_pairsWithin {α : Type} {window : Option Nat} {as : List α} {pair : α × α}
    (h : pair ∈ pairsWithin window as) : pair.1 ∈ as ∧ pair.2 ∈ as := by
  induction as with
  | nil => cases h
  | cons a as ih =>
    rcases mem_pairsWithin_cons h with ⟨b, mem, rfl⟩ | later
    · exact ⟨List.mem_cons_self, List.mem_cons_of_mem _ mem⟩
    · exact ⟨List.mem_cons_of_mem _ (ih later).1, List.mem_cons_of_mem _ (ih later).2⟩

/-- What the edges of a plan lead to is among given nodes, each of its kind. -/
structure HasTargets (plan : PlannedPost) (refs : List Ref) : Prop where
  /-- The post. -/
  post : plan.post ∈ refs ∧ plan.post.kind = .post
  /-- The keywords. -/
  keyword : ∀ k ∈ plan.keywords, k.node ∈ refs ∧ k.node.kind = .keyword
  /-- The topic. -/
  topic : ∀ r, plan.topic = some r → r ∈ refs ∧ r.kind = .topic
  /-- The names of sentiments. -/
  sentiment : ∀ r ∈ plan.sentiments, r ∈ refs ∧ r.kind = .sentimentTag
  /-- The author. -/
  user : ∀ r, plan.user = some r → r ∈ refs ∧ r.kind = .user
  /-- The community. -/
  subreddit : ∀ r, plan.subreddit = some r → r ∈ refs ∧ r.kind = .subreddit

/-- What a text names is of the kind that the text is read for. -/
theorem kind_of_named {o : Option String} {kind : NodeKind} {name : String → String} {r : Ref}
    (named : (o.map fun s => (⟨kind, name s⟩ : Ref)) = some r) : r.kind = kind := by
  obtain ⟨s, -, rfl⟩ := Option.map_eq_some_iff.1 named
  rfl

/-- A plan has the nodes that its edges lead to. -/
theorem Plans.hasTargets (h : Plans settings p plan) :
    plan.HasTargets (plan.nodes.map Node.ref) where
  post := by
    refine ⟨?_, h.post⟩
    simp only [h.refs_nodes, List.mem_append, List.mem_singleton, or_true]
  keyword k mem := by
    constructor
    · simp only [h.refs_nodes, List.mem_append, List.mem_map_of_mem mem, true_or]
    · rw [h.keywords] at mem
      obtain ⟨s, -, rfl⟩ := List.mem_map.1 mem
      rfl
  topic r has := by
    refine ⟨?_, kind_of_named (h.topic.symm.trans has)⟩
    simp only [h.refs_nodes, List.mem_append, Option.mem_toList.2 has, true_or, or_true]
  sentiment r mem := by
    rw [h.sentiments, mem_distinct] at mem
    constructor
    · simp only [h.refs_nodes, List.mem_append, mem, true_or, or_true]
    · obtain ⟨tag, -, rfl⟩ := List.mem_map.1 mem
      rfl
  user r has := by
    refine ⟨?_, kind_of_named (h.user.symm.trans has)⟩
    simp only [h.refs_nodes, List.mem_append, Option.mem_toList.2 has, true_or, or_true]
  subreddit r has := by
    refine ⟨?_, kind_of_named (h.subreddit.symm.trans has)⟩
    simp only [h.refs_nodes, List.mem_append, Option.mem_toList.2 has, true_or, or_true]

/-- The edges of a plan join its nodes. -/
theorem Plans.isClosed (h : Plans settings p plan) (w : Weighting) :
    (plan.fragment w).IsClosed := by
  intro e he
  show e.IsClosedIn (plan.nodes.map Node.ref)
  have has := h.hasTargets
  obtain ⟨source, post⟩ := has.post
  simp only [fragment, edges, List.mem_append] at he
  rcases he with (((((he | he) | he) | he) | he) | he) | he
  · obtain ⟨k, mem, rfl⟩ := List.mem_map.1 he
    obtain ⟨target, kind⟩ := has.keyword k mem
    refine ⟨by simpa using source, by simpa using target, ?_⟩
    simp [Edge.IsTyped, post, kind, EdgeKind.ends]
  · rw [h.entities] at he
    refine isClosedIn_of_mem_entityEdges he source (by simp [post, EdgeKind.ends]) ?_
    intro r mem
    rw [← h.entities] at mem
    simp only [h.refs_nodes, List.mem_append, mem, true_or, or_true]
  · refine isClosedIn_of_mem_namedEdge he source (fun r named => (has.topic r named).1) ?_
    intro r named
    simp [post, (has.topic r named).2, EdgeKind.ends]
  · obtain ⟨r, mem, rfl⟩ := List.mem_map.1 he
    obtain ⟨target, kind⟩ := has.sentiment r mem
    refine ⟨by simpa using source, by simpa using target, ?_⟩
    simp [Edge.IsTyped, post, kind, EdgeKind.ends]
  · refine isClosedIn_of_mem_namedEdge he source (fun r named => (has.user r named).1) ?_
    intro r named
    simp [post, (has.user r named).2, EdgeKind.ends]
  · refine isClosedIn_of_mem_namedEdge he source (fun r named => (has.subreddit r named).1) ?_
    intro r named
    simp [post, (has.subreddit r named).2, EdgeKind.ends]
  · obtain ⟨pair, mem, rfl⟩ := List.mem_map.1 he
    obtain ⟨first, second⟩ := mem_of_mem_pairsWithin mem
    obtain ⟨source, kind⟩ := has.keyword pair.1 first
    obtain ⟨target, kind'⟩ := has.keyword pair.2 second
    refine ⟨source, target, ?_⟩
    simp [Edge.IsTyped, kind, kind', EdgeKind.ends]

/-! ### The edges of one kind -/

/-- Of edges that are all of one kind, either all are of a given kind or none. -/
theorem filter_kind {es : List Edge} {j : EdgeKind} (h : ∀ e ∈ es, e.kind = j) (kind : EdgeKind) :
    es.filter (·.kind == kind) = if j = kind then es else [] := by
  split
  · next eq =>
    exact List.filter_eq_self.2 fun e he => by simp [h e he, eq]
  · next ne =>
    exact List.filter_eq_nil_iff.2 fun e he => by simp [h e he, ne]

/-- The edges of a plan by their kind.  Each kind has a part of the plan for itself. -/
def edgesFor (w : Weighting) (plan : PlannedPost) : EdgeKind → List Edge
  | .mentionsKeyword => plan.keywords.map (plan.keywordEdge w)
  | .mentionsEntity => entityEdges plan.post plan.entities
  | .hasTopic => (plan.topic.map (plainEdge .hasTopic plan.post)).toList
  | .hasSentiment => plan.sentiments.map plan.sentimentEdge
  | .authoredBy => (plan.user.map (plainEdge .authoredBy plan.post)).toList
  | .inSubreddit => (plan.subreddit.map (plainEdge .inSubreddit plan.post)).toList
  | .coOccurs => (pairsWithin w.window plan.keywords).map (plan.pairEdge w)
  | _ => []

theorem edges_eq (w : Weighting) (plan : PlannedPost) :
    plan.edges w = plan.edgesFor w .mentionsKeyword ++ plan.edgesFor w .mentionsEntity ++
      plan.edgesFor w .hasTopic ++ plan.edgesFor w .hasSentiment ++ plan.edgesFor w .authoredBy ++
      plan.edgesFor w .inSubreddit ++ plan.edgesFor w .coOccurs := rfl

theorem kind_of_mem_edgesFor {kind : EdgeKind} {e : Edge} (he : e ∈ plan.edgesFor w kind) :
    e.kind = kind := by
  cases kind
  case mentionsKeyword =>
    obtain ⟨k, -, rfl⟩ := List.mem_map.1 he
    exact kind_keywordEdge k
  case mentionsEntity =>
    obtain ⟨⟨n, m⟩, -, rfl⟩ := List.mem_map.1 he
    exact m.kind_edge _ _
  case hasSentiment =>
    obtain ⟨tag, -, rfl⟩ := List.mem_map.1 he
    exact kind_sentimentEdge tag
  case coOccurs =>
    obtain ⟨pair, -, rfl⟩ := List.mem_map.1 he
    exact kind_pairEdge pair
  case hasTopic => exact kind_of_mem_namedEdge he
  case authoredBy => exact kind_of_mem_namedEdge he
  case inSubreddit => exact kind_of_mem_namedEdge he
  all_goals cases he

/-- The edges of one kind come from one part of the plan, in its order. -/
theorem filter_edges (w : Weighting) (plan : PlannedPost) (kind : EdgeKind) :
    (plan.edges w).filter (·.kind == kind) = plan.edgesFor w kind := by
  have part (j : EdgeKind) : (plan.edgesFor w j).filter (·.kind == kind) =
      if j = kind then plan.edgesFor w j else [] :=
    filter_kind (fun _ he => kind_of_mem_edgesFor he) kind
  simp only [edges_eq, List.filter_append, part]
  cases kind <;> simp [edgesFor]

end PlannedPost

/-! ## Graphs of plans -/

/-- The plans of posts that have a name, in order. -/
abbrev plansOf (settings : Settings) (posts : List Post) : List PlannedPost :=
  posts.filterMap (PlannedPost.of? settings)

theorem mem_plansOf {settings : Settings} {posts : List Post} {plan : PlannedPost}
    (h : plan ∈ plansOf settings posts) : ∃ p ∈ posts, PlannedPost.Plans settings p plan := by
  obtain ⟨p, mem, eq⟩ := List.mem_filterMap.1 h
  exact ⟨p, mem, PlannedPost.plans_of_of? eq⟩

/-- The posts that have a name, in order, each after its name. -/
def namedPosts (posts : List Post) : List (String × Post) :=
  posts.filterMap fun p => p.identifier?.map (·, p)

theorem mem_namedPosts {posts : List Post} {p : Post} {id : String} (hp : p ∈ posts)
    (named : p.identifier? = some id) : (id, p) ∈ namedPosts posts :=
  List.mem_filterMap.2 ⟨p, hp, by simp [named]⟩

/-- What depends on the plans of posts in one way is read off the posts with a name. -/
theorem map_plansOf {α : Type} {settings : Settings} {posts : List Post} {f : PlannedPost → α}
    {g : String × Post → α}
    (same : ∀ p ∈ posts, ∀ plan, PlannedPost.Plans settings p plan → f plan = g (plan.post.id, p)) :
    (plansOf settings posts).map f = (namedPosts posts).map g := by
  rw [plansOf, namedPosts, List.map_filterMap, List.map_filterMap]
  refine List.filterMap_congr fun p hp => ?_
  cases planned : PlannedPost.of? settings p with
  | none =>
    have unnamed := PlannedPost.isSome_of? settings p
    rw [planned] at unnamed
    cases named : p.identifier? with
    | none => rfl
    | some id => simp [named] at unnamed
  | some plan =>
    have plans := PlannedPost.plans_of_of? planned
    simp [plans.identifier, same p hp plan plans]

/-- A node of a graph of posts is a node of the plan of one of them. -/
theorem Graph.exists_plans_of_mem_ofPosts {now : Instant} {settings : Settings} {posts : List Post}
    {n : Node} (mem : n ∈ (Graph.ofPosts now settings posts).nodes.values) :
    ∃ p ∈ posts, ∃ plan, PlannedPost.Plans settings p plan ∧ n ∈ plan.nodes := by
  obtain ⟨f, hf, mem⟩ := mem_of_mem_ofFragments mem
  obtain ⟨plan, hplan, rfl⟩ := List.mem_map.1 hf
  obtain ⟨p, hp, plans⟩ := mem_plansOf hplan
  exact ⟨p, hp, plan, plans, mem⟩

/-- The edges of one kind in a graph of posts, plan by plan. -/
theorem Graph.edgesOf_ofPosts (now : Instant) (settings : Settings) (posts : List Post)
    (kind : EdgeKind) :
    (Graph.ofPosts now settings posts).edgesOf kind =
      (plansOf settings posts).flatMap fun plan =>
        plan.edgesFor (.of now settings (plansOf settings posts)) kind := by
  simp [Graph.ofPosts, Graph.ofFragments, Graph.edgesOf, List.flatMap_map, List.filter_flatMap,
    PlannedPost.fragment, PlannedPost.filter_edges]

/-- The edges of a kind that leads from every post to what one text of it names, such as its
topic. -/
theorem Graph.mem_edgesOf_ofPosts {now : Instant} {settings : Settings} {posts : List Post}
    {kind : EdgeKind} {target : NodeKind} (part : PlannedPost → Option Ref)
    {label : Post → Option String}
    (own : ∀ w plan, PlannedPost.edgesFor w plan kind =
      ((part plan).map (plainEdge kind plan.post)).toList)
    (read : ∀ p plan, PlannedPost.Plans settings p plan →
      part plan = (label p).map fun name => ⟨target, Text.normalize name⟩) {e : Edge} :
    e ∈ (Graph.ofPosts now settings posts).edgesOf kind ↔
      ∃ p ∈ posts, ∃ id name, p.identifier? = some id ∧ label p = some name ∧
        e = plainEdge kind ⟨.post, id⟩ ⟨target, Text.normalize name⟩ := by
  rw [edgesOf_ofPosts, List.mem_flatMap]
  constructor
  · rintro ⟨plan, hplan, he⟩
    obtain ⟨p, hp, plans⟩ := mem_plansOf hplan
    rw [own, read p plan plans, Option.mem_toList, Option.map_map] at he
    obtain ⟨name, has, rfl⟩ := Option.map_eq_some_iff.1 he
    refine ⟨p, hp, plan.post.id, name, plans.identifier, has, ?_⟩
    rw [← plans.post_eq]
    rfl
  · rintro ⟨p, hp, id, name, identifier, has, rfl⟩
    obtain ⟨plan, planned, post⟩ := PlannedPost.exists_plan settings identifier
    refine ⟨plan, List.mem_filterMap.2 ⟨p, hp, planned⟩, ?_⟩
    rw [own, read p plan (PlannedPost.plans_of_of? planned), has, post]
    exact List.mem_singleton_self _

end KnowledgeGraph

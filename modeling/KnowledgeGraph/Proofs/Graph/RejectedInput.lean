import KnowledgeGraph.Proofs.Graph.Corpus

/-!
# Rejected input

Some input makes no part of a graph: a record without an identifier, and in the other records a
mention that identifies nothing, a blank text in a list and a statement with a blank end.
`Corpus.cleared` is the corpus without all of that, and it gives the same graphs
(`Corpus.graphs_cleared`).

Each of these is passed over where it stands, in the middle of a list that is worked through.  So it
must leave no trace there: a post without a name is not counted, and a statement with one good end
leaves no entity for it behind (`relationEdges_filter`).
-/

namespace KnowledgeGraph

open Text (presence?)

/-! ## What is rejected -/

/-- Whether a text is not blank. -/
def isFilled (s : String) : Bool := (presence? s).isSome

/-- Whether neither end of a statement is blank. -/
def Statement.isFilled (t : Statement) : Bool :=
  KnowledgeGraph.isFilled t.subject && KnowledgeGraph.isFilled t.object

namespace Post

/-- Whether a post has an identifier or an address. -/
def isNamed (p : Post) : Bool := isFilled p.id || isFilled p.uri

/-- A post without the mentions that identify nothing and without blank texts in its lists. -/
def cleared (p : Post) : Post :=
  { p with
    sentimentTags := p.sentimentTags.filter isFilled
    sentimentPhrases := p.sentimentPhrases.filter isFilled
    emotionWords := p.emotionWords.filter isFilled
    entities := p.entities.filter (·.identifiesEntity) }

end Post

/-- A point of market data without the mentions that identify nothing. -/
def MarketPoint.cleared (r : MarketPoint) : MarketPoint :=
  { r with entities := r.entities.filter (·.identifiesEntity) }

/-- A document without blank key points, the mentions that identify nothing, and the statements with
a blank end. -/
def PolicyDocument.cleared (r : PolicyDocument) : PolicyDocument :=
  { r with
    keyPoints := r.keyPoints.filter isFilled
    entities := r.entities.filter (·.identifiesEntity)
    relations := r.relations.filter (·.isFilled) }

/-- A corpus without the records that have no identifier, the others cleared. -/
def Corpus.cleared (c : Corpus) : Corpus where
  posts := (c.posts.filter (·.isNamed)).map Post.cleared
  market := (c.market.filter (isFilled ·.statId)).map MarketPoint.cleared
  policies := (c.policies.filter (isFilled ·.docId)).map PolicyDocument.cleared

/-! ## Lists -/

/-- Elements that give nothing can be left out. -/
theorem filterMap_filter_of_none {α β : Type} {f : α → Option β} {keep : α → Bool}
    (none : ∀ a, keep a = false → f a = none) (as : List α) :
    (as.filter keep).filterMap f = as.filterMap f := by
  rw [List.filterMap_filter]
  refine List.filterMap_congr fun a _ => ?_
  cases kept : keep a with
  | true => rfl
  | false => exact (none a kept).symm

/-- Records that give nothing can be left out, and the others changed into ones that give the
same. -/
theorem filterMap_map_filter {α β : Type} {f : α → Option β} {keep : α → Bool} {change : α → α}
    (none : ∀ a, keep a = false → f a = none) (same : ∀ a, f (change a) = f a) (as : List α) :
    ((as.filter keep).map change).filterMap f = as.filterMap f := by
  rw [List.filterMap_map, ← filterMap_filter_of_none none as]
  exact List.filterMap_congr fun a _ => same a

theorem presence?_of_not_isFilled {s : String} (blank : isFilled s = false) : presence? s = none :=
  Option.not_isSome_iff_eq_none.1 (by simpa [isFilled] using blank)

theorem presentTexts_filter (ss : List String) :
    presentTexts (ss.filter isFilled) = presentTexts ss :=
  filterMap_filter_of_none (fun _ => presence?_of_not_isFilled) ss

theorem presentList?_filter (ss : List String) :
    presentList? (ss.filter isFilled) = presentList? ss := by
  rw [presentList?, presentTexts_filter, presentList?]

theorem mentionedEntities_filter (ms : List Mention) :
    mentionedEntities (ms.filter (·.identifiesEntity)) = mentionedEntities ms := by
  refine filterMap_filter_of_none (fun m nothing => ?_) ms
  simp [Mention.node?, nothing]

/-! ## Records -/

namespace Post

variable {settings : Settings} {p : Post}

theorem identifier?_of_not_isNamed (unnamed : p.isNamed = false) : p.identifier? = none := by
  obtain ⟨id, uri⟩ := Bool.or_eq_false_iff.1 unnamed
  rw [identifier?, presence?_of_not_isFilled id, presence?_of_not_isFilled uri]
  rfl

/-- A cleared post has the same node. -/
theorem postNode_cleared (settings : Settings) (p : Post) (id : String) (count : Nat) :
    p.cleared.postNode settings id count = p.postNode settings id count := by
  simp only [postNode, cleared, presentList?_filter]
  rfl

/-- A cleared post has the same plan. -/
theorem plan_cleared (settings : Settings) (p : Post) :
    PlannedPost.of? settings p.cleared = PlannedPost.of? settings p := by
  have entities : mentionedEntities p.cleared.entities = mentionedEntities p.entities :=
    mentionedEntities_filter p.entities
  have tags : presentTexts p.cleared.sentimentTags = presentTexts p.sentimentTags :=
    presentTexts_filter p.sentimentTags
  simp only [PlannedPost.of?, postNode_cleared, entities, tags]
  rfl

end Post

theorem MarketPoint.fragment?_cleared (r : MarketPoint) : r.cleared.fragment? = r.fragment? := by
  have entities : mentionedEntities r.cleared.entities = mentionedEntities r.entities :=
    mentionedEntities_filter r.entities
  simp only [fragment?, entities]
  rfl

/-! ### Statements -/

theorem Statement.ends?_of_not_isFilled {t : Statement} (blank : t.isFilled = false) :
    t.ends? = none := by
  rcases Bool.and_eq_false_iff.1 blank with subject | object
  · rw [ends?, presence?_of_not_isFilled subject]
    rfl
  · rw [ends?, presence?_of_not_isFilled object]
    cases presence? t.subject <;> rfl

/-- Statements with a blank end give no edge, and nothing is found for their other end. -/
theorem relationEdges_filter (docId : String) (s : Resolution) (ts : List Statement) :
    relationEdges docId s (ts.filter (·.isFilled)) = relationEdges docId s ts := by
  induction ts generalizing s with
  | nil => rfl
  | cons t ts ih =>
    cases filled : t.isFilled with
    | false =>
      rw [List.filter_cons_of_neg (by simp [filled]), ih, relationEdges_cons,
        Statement.ends?_of_not_isFilled filled]
    | true =>
      rw [List.filter_cons_of_pos filled, relationEdges_cons, relationEdges_cons]
      simp only [ih]

theorem PolicyDocument.fragment?_cleared (r : PolicyDocument) :
    r.cleared.fragment? = r.fragment? := by
  have keypoints : presentTexts r.cleared.keyPoints = presentTexts r.keyPoints :=
    presentTexts_filter r.keyPoints
  have entities : mentionedEntities r.cleared.entities = mentionedEntities r.entities :=
    mentionedEntities_filter r.entities
  have relations (docId : String) (s : Resolution) :
      relationEdges docId s r.cleared.relations = relationEdges docId s r.relations :=
    relationEdges_filter docId s r.relations
  simp only [fragment?, keypoints, entities, relations]
  rfl

/-! ## Graphs -/

/-- What is rejected has no effect: without it, a corpus gives the same graphs, with the same nodes,
properties, edges and weights. -/
theorem Corpus.graphs_cleared (c : Corpus) (now : Instant) (settings : Settings) :
    c.cleared.graphs now settings = c.graphs now settings := by
  have posts : c.cleared.posts.filterMap (PlannedPost.of? settings) =
      c.posts.filterMap (PlannedPost.of? settings) := by
    refine filterMap_map_filter (fun p unnamed => ?_) (Post.plan_cleared settings) c.posts
    rw [PlannedPost.of?, Post.identifier?_of_not_isNamed unnamed]
    rfl
  have market : c.cleared.market.filterMap MarketPoint.fragment? =
      c.market.filterMap MarketPoint.fragment? := by
    refine filterMap_map_filter (fun r unnamed => ?_) MarketPoint.fragment?_cleared c.market
    rw [MarketPoint.fragment?, presence?_of_not_isFilled unnamed]
    rfl
  have policies : c.cleared.policies.filterMap PolicyDocument.fragment? =
      c.policies.filterMap PolicyDocument.fragment? := by
    refine filterMap_map_filter (fun r unnamed => ?_) PolicyDocument.fragment?_cleared c.policies
    rw [PolicyDocument.fragment?, presence?_of_not_isFilled unnamed]
    rfl
  rw [graphs, graphs, Graph.ofPosts, Graph.ofPosts, Graph.ofMarket, Graph.ofMarket,
    Graph.ofPolicies, Graph.ofPolicies, posts, market, policies]

end KnowledgeGraph

import KnowledgeGraph.Proofs.Graph.PostNodes
import KnowledgeGraph.Proofs.Graph.Reordering
import KnowledgeGraph.Proofs.Keyword.Collection
import KnowledgeGraph.Proofs.Text.Normal

/-!
# Posts in another spelling

The nodes that a post refers to are named by normal forms.  So posts whose keywords, topics,
sentiments, authors and communities are spelled in another way (`Post.IsRespelling`) should give the
same keys and the same edges, and the properties of nodes should be all that differs.

That is so for everything but the community.  Its name loses the mark `r/` before the normal form is
taken, and the mark is found in that spelling only.  So `r/games` names the community `games`, and
`R/games`, which has the same normal form, another one.  The graphs are the same exactly if the
communities are (`Graph.ofPosts_respelled`).
-/

namespace KnowledgeGraph

open KnowledgeGraph.Graph (Fragment)
open Text (normalize presence?)

/-! ## Spellings -/

/-- Two texts with one normal form, which is not empty. -/
def SameText (s t : String) : Prop := normalize s = normalize t ∧ normalize s ≠ ""

instance (s t : String) : Decidable (SameText s t) := inferInstanceAs (Decidable (_ ∧ _))

namespace Post

/-- A post in another spelling.  Keywords, topic, names of sentiments, author and community have the
same normal forms, which are not empty, and everything else is the same. -/
structure IsRespelling (p q : Post) : Prop where
  /-- Nothing else differs. -/
  others : q = { p with
    keywords := q.keywords
    topic := q.topic
    sentimentTags := q.sentimentTags
    username := q.username
    subreddit := q.subreddit }
  /-- The keywords are the same, one by one. -/
  keywords : List.Forall₂ SameText p.keywords q.keywords
  /-- The topic is the same, or there is none. -/
  topic : Option.Rel SameText p.topic q.topic
  /-- The names of sentiments are the same, one by one. -/
  sentimentTags : List.Forall₂ SameText p.sentimentTags q.sentimentTags
  /-- The author is the same, or there is none. -/
  username : Option.Rel SameText p.username q.username
  /-- The community is written with the same normal form, or there is none. -/
  subreddit : Option.Rel SameText p.subreddit q.subreddit

/-- The normal form of the name of the community, without the mark. -/
def community? (p : Post) : Option String := (p.subreddit.bind communityName?).map normalize

/-- The communities are the same, unless the posts have no name. -/
def KeepsCommunity (p q : Post) : Prop := p.identifier? ≠ none → p.community? = q.community?

end Post

/-- Lists that are related one by one give the same where related elements do. -/
theorem map_eq_of_forall₂ {α β γ : Type} {R : α → β → Prop} {f : α → γ} {g : β → γ} {as : List α}
    {bs : List β} (h : List.Forall₂ R as bs) (same : ∀ a b, R a b → f a = g b) :
    as.map f = bs.map g := by
  induction h with
  | nil => rfl
  | cons related _ ih => rw [List.map_cons, List.map_cons, same _ _ related, ih]

/-- One text in two spellings is left with one normal form when it is trimmed. -/
theorem SameText.map_presence? {s t : String} (h : SameText s t) :
    (presence? s).map normalize = some (normalize t) ∧
      (presence? t).map normalize = some (normalize t) := by
  obtain ⟨same, named⟩ := h
  rw [same] at named
  refine ⟨?_, Text.map_normalize_presence? named⟩
  rw [← same] at named ⊢
  exact Text.map_normalize_presence? named

theorem bind_presence?_respelled {o o' : Option String} (h : Option.Rel SameText o o') :
    (o.bind presence?).map normalize = (o'.bind presence?).map normalize := by
  cases h with
  | none => rfl
  | some same =>
    rw [Option.bind_some, Option.bind_some, same.map_presence?.1, same.map_presence?.2]

theorem presentTexts_respelled {ss ts : List String} (h : List.Forall₂ SameText ss ts) :
    (presentTexts ss).map normalize = (presentTexts ts).map normalize := by
  rw [presentTexts, presentTexts, List.map_filterMap, List.map_filterMap]
  induction h with
  | nil => rfl
  | cons same _ ih =>
    rw [List.filterMap_cons, List.filterMap_cons, same.map_presence?.1, same.map_presence?.2, ih]

/-- What is named by normal forms does not show the spelling. -/
theorem map_ref_respelled {o o' : Option String} (h : o.map normalize = o'.map normalize)
    (kind : NodeKind) :
    o.map (fun label => (⟨kind, normalize label⟩ : Ref)) =
      o'.map fun label => ⟨kind, normalize label⟩ := by
  have same := congrArg (Option.map (Ref.mk kind)) h
  rwa [Option.map_map, Option.map_map] at same

theorem map_ref_presentTexts_respelled {ss ts : List String} (h : List.Forall₂ SameText ss ts)
    (kind : NodeKind) :
    (presentTexts ss).map (fun label => (⟨kind, normalize label⟩ : Ref)) =
      (presentTexts ts).map fun label => ⟨kind, normalize label⟩ := by
  have same := congrArg (List.map (Ref.mk kind)) (presentTexts_respelled h)
  rwa [List.map_map, List.map_map] at same

/-! ## Plans -/

namespace Post.IsRespelling

variable {settings : Settings} {p q : Post}

theorem identifier? (h : p.IsRespelling q) : p.identifier? = q.identifier? := by
  rw [h.others]
  rfl

theorem keywordLanguage (h : p.IsRespelling q) :
    p.keywordLanguage settings = q.keywordLanguage settings := by
  rw [h.others]
  rfl

/-- The entries that keywords are taken from have the same normal forms. -/
theorem entries (h : p.IsRespelling q) :
    List.Forall₂ (fun e e' => normalize e = normalize e') (Keyword.entries settings p)
      (Keyword.entries settings q) := by
  have text : p.text = q.text := by rw [h.others]
  have listed := h.keywords.imp fun _ _ same => same.1
  have blank : p.keywords.isEmpty = q.keywords.isEmpty := by
    rw [Bool.eq_iff_iff, List.isEmpty_iff_length_eq_zero, List.isEmpty_iff_length_eq_zero,
      h.keywords.length_eq]
  rw [Keyword.entries, Keyword.entries, text, blank]
  split
  · exact List.forall₂_same.2 fun _ _ => rfl
  · exact listed

/-- The posts keep the same keywords. -/
theorem keywordUses (h : p.IsRespelling q) : p.keywordUses settings = q.keywordUses settings := by
  have kept : List.Forall₂ Keyword.Slot.IsRespelling (Keyword.ofPost settings p)
      (Keyword.ofPost settings q) := Keyword.collect_respelled settings.keywordLimit h.entries
  refine map_eq_of_forall₂ kept fun s t same => ?_
  rw [Post.keywordRef, Post.keywordRef, h.keywordLanguage, same.normal, same.occurrences]

end Post.IsRespelling

/-- The names of posts do not change. -/
theorem identifiers_respelled {ps qs : List Post} (h : List.Forall₂ Post.IsRespelling ps qs) :
    ps.filterMap Post.identifier? = qs.filterMap Post.identifier? := by
  induction h with
  | nil => rfl
  | cons respelled _ ih =>
    rw [List.filterMap_cons, List.filterMap_cons, respelled.identifier?, ih]

/-- Two plans that differ at most in the properties of their nodes. -/
structure PlannedPost.IsAlike (a b : PlannedPost) : Prop where
  /-- Nothing but the nodes differs. -/
  others : b = { a with nodes := b.nodes }
  /-- The references of the nodes are the same. -/
  refs : a.nodes.map Node.ref = b.nodes.map Node.ref

/-- A post in another spelling has a plan that is alike, if its community is the same. -/
theorem Post.IsRespelling.isAlike {settings : Settings} {p q : Post} {a b : PlannedPost}
    (h : p.IsRespelling q) (community : p.community? = q.community?)
    (planA : PlannedPost.Plans settings p a) (planB : PlannedPost.Plans settings q b) :
    a.IsAlike b := by
  have post : a.post = b.post := by
    have ids := planA.identifier.symm.trans (h.identifier?.trans planB.identifier)
    calc a.post = ⟨.post, a.post.id⟩ := planA.post_eq
      _ = ⟨.post, b.post.id⟩ := by rw [Option.some.inj ids]
      _ = b.post := planB.post_eq.symm
  have instant : a.instant = b.instant := by
    rw [planA.instant, planB.instant, h.others]
    rfl
  have keywords : a.keywords = b.keywords := by
    rw [planA.keywords, planB.keywords, h.keywordUses]
  have entities : a.entities = b.entities := by
    rw [planA.entities, planB.entities, h.others]
  have topic : a.topic = b.topic := by
    rw [planA.topic, planB.topic, map_ref_respelled (bind_presence?_respelled h.topic)]
  have tags := map_ref_presentTexts_respelled h.sentimentTags .sentimentTag
  have sentiments : a.sentiments = b.sentiments := by
    rw [planA.sentiments, planB.sentiments, tags]
  have orientation : a.orientation = b.orientation := by
    rw [planA.orientation, planB.orientation, h.others]
  have user : a.user = b.user := by
    rw [planA.user, planB.user, map_ref_respelled (bind_presence?_respelled h.username)]
  have subreddit : a.subreddit = b.subreddit := by
    rw [planA.subreddit, planB.subreddit, map_ref_respelled community]
  constructor
  · cases b
    simp only [PlannedPost.mk.injEq]
    exact ⟨post.symm, trivial, instant.symm, keywords.symm, entities.symm, topic.symm,
      sentiments.symm, orientation.symm, user.symm, subreddit.symm⟩
  · rw [planA.refs_nodes, planB.refs_nodes, post, keywords, entities, topic, tags, user, subreddit]

/-- The plans of posts in another spelling are alike, one by one. -/
theorem forall₂_plansOf (settings : Settings) {ps qs : List Post}
    (h : List.Forall₂ (fun p q => p.IsRespelling q ∧ p.KeepsCommunity q) ps qs) :
    List.Forall₂ PlannedPost.IsAlike (plansOf settings ps) (plansOf settings qs) := by
  refine List.rel_filterMap (fun p q ⟨respelled, keeps⟩ => ?_) h
  have planned : (PlannedPost.of? settings p).isSome = (PlannedPost.of? settings q).isSome := by
    rw [PlannedPost.isSome_of?, PlannedPost.isSome_of?, respelled.identifier?]
  cases planP : PlannedPost.of? settings p with
  | none =>
    rw [planP] at planned
    cases planQ : PlannedPost.of? settings q with
    | none => exact .none
    | some b => simp [planQ] at planned
  | some a =>
    rw [planP] at planned
    obtain ⟨b, planQ⟩ := Option.isSome_iff_exists.1 planned.symm
    have plansP := PlannedPost.plans_of_of? planP
    have community := keeps (by simp [plansP.identifier])
    rw [planQ]
    exact .some (respelled.isAlike community plansP (PlannedPost.plans_of_of? planQ))

/-! ## Graphs -/

/-- Alike plans are weighted alike. -/
theorem weighting_respelled {settings : Settings} (steady : settings.IgnoresNow)
    (now later : Instant) {as bs : List PlannedPost}
    (h : List.Forall₂ PlannedPost.IsAlike as bs) :
    Weighting.of now settings as = Weighting.of later settings bs := by
  have counted : as.map (fun plan => plan.keywords.map (·.node.id)) =
      bs.map fun plan => plan.keywords.map (·.node.id) :=
    map_eq_of_forall₂ h fun a b alike => by rw [alike.others]
  rw [Weighting.of, Weighting.of, statisticsOf_eq_observeAll, statisticsOf_eq_observeAll, counted,
    steady.decay_eq now later]

namespace Graph

/-- The keys of fragments are those of the references of their nodes. -/
theorem keys_ofFragments_congr {fs gs : List Fragment}
    (same : fs.map (fun f => f.nodes.map Node.ref) = gs.map fun f => f.nodes.map Node.ref) :
    (ofFragments fs).nodes.keys = (ofFragments gs).nodes.keys := by
  have given (fs : List Fragment) (key : String) : (ofFragments fs).nodes.contains key = true ↔
      ∃ refs ∈ fs.map (fun f => f.nodes.map Node.ref), ∃ r ∈ refs, r.key = key := by
    simp [contains_nodes_ofFragments, Node.key]
  refine KeyedMap.keys_ext fun key => ?_
  rw [given, given, same]

variable {settings : Settings} {ps qs : List Post}

/-- Posts in another spelling give the same keys and the same edges, if their communities are the
same. -/
theorem ofPosts_respelled_of_keepsCommunity (steady : settings.IgnoresNow)
    (h : List.Forall₂ (fun p q => p.IsRespelling q ∧ p.KeepsCommunity q) ps qs)
    (now later : Instant) :
    (ofPosts now settings ps).nodes.keys = (ofPosts later settings qs).nodes.keys ∧
      (ofPosts now settings ps).edges = (ofPosts later settings qs).edges := by
  have alike := forall₂_plansOf settings h
  have weighting := weighting_respelled steady now later alike
  constructor
  · refine keys_ofFragments_congr ?_
    rw [List.map_map, List.map_map]
    exact map_eq_of_forall₂ alike fun a b alike => alike.refs
  · show List.flatMap _ _ = List.flatMap _ _
    rw [List.flatMap_def, List.flatMap_def, List.map_map, List.map_map, weighting]
    refine congrArg List.flatten (map_eq_of_forall₂ alike fun a b alike => ?_)
    rw [alike.others]
    rfl

/-- Where names do not repeat, the edges to communities tell the community of every post. -/
theorem community?_eq_some_iff (now : Instant) (settings : Settings) {p : Post} {id name : String}
    (nodup : (ps.filterMap Post.identifier?).Nodup) (hp : p ∈ ps)
    (identifier : p.identifier? = some id) :
    p.community? = some name ↔ plainEdge .inSubreddit ⟨.post, id⟩ ⟨.subreddit, name⟩ ∈
      (ofPosts now settings ps).edgesOf .inSubreddit := by
  rw [mem_edgesOf_ofPosts PlannedPost.subreddit (fun _ _ => rfl) fun _ _ plans => plans.subreddit,
    Post.community?, Option.map_eq_some_iff]
  constructor
  · rintro ⟨label, has, rfl⟩
    exact ⟨p, hp, id, label, identifier, has, rfl⟩
  · rintro ⟨q, hq, id', label, identifier', has, same⟩
    have ids : id = id' := congrArg (·.source.id) same
    have names : name = normalize label := congrArg (·.target.id) same
    rw [← ids] at identifier'
    rw [eq_of_identifier?_eq nodup hp hq identifier identifier']
    exact ⟨label, has, names.symm⟩

/-- Posts in another spelling, with ages that do not depend on the clock, give the same keys and the
same edges if their communities are the same when the mark is dropped.  Where names do not repeat,
the edges are the same in no other case. -/
theorem ofPosts_respelled (steady : settings.IgnoresNow)
    (respelled : List.Forall₂ Post.IsRespelling ps qs) (now later : Instant) :
    (List.Forall₂ Post.KeepsCommunity ps qs →
      (ofPosts now settings ps).nodes.keys = (ofPosts later settings qs).nodes.keys ∧
        (ofPosts now settings ps).edges = (ofPosts later settings qs).edges) ∧
    ((ps.filterMap Post.identifier?).Nodup →
      (ofPosts now settings ps).edges = (ofPosts later settings qs).edges →
        List.Forall₂ Post.KeepsCommunity ps qs) := by
  have ⟨length, pairs⟩ := List.forall₂_iff_zip.1 respelled
  constructor
  · intro keeps
    have both : List.Forall₂ (fun p q => p.IsRespelling q ∧ p.KeepsCommunity q) ps qs :=
      List.forall₂_iff_zip.2 ⟨length, fun mem => ⟨pairs mem, (List.forall₂_iff_zip.1 keeps).2 mem⟩⟩
    exact ofPosts_respelled_of_keepsCommunity steady both now later
  · intro nodup edges
    have nodup' := nodup
    rw [identifiers_respelled respelled] at nodup'
    refine List.forall₂_iff_zip.2 ⟨length, fun {p q} mem named => ?_⟩
    obtain ⟨id, identifier⟩ := Option.ne_none_iff_exists'.1 named
    obtain ⟨hp, hq⟩ := List.of_mem_zip mem
    have identifier' : q.identifier? = some id := (pairs mem).identifier? ▸ identifier
    refine Option.ext fun name => ?_
    rw [community?_eq_some_iff now settings nodup hp identifier,
      community?_eq_some_iff later settings nodup' hq identifier',
      edgesOf, edges, edgesOf]

/-- One post in three spellings.  The second one is the same, and the third one writes the mark of
the community in another way. -/
theorem ofPosts_respelled_lottery :
    let settings : Settings := { tauDays := some 7.0, reference := some ⟨0, 0, by decide⟩ }
    let first : Post :=
      { id := "p", keywords := ["Lottery", "jackpot"], topic := some "Games",
        sentimentTags := ["Joy"], username := some "Ann", subreddit := some "r/Lottery" }
    let second : Post :=
      { id := "p", keywords := [" LOTTERY", "Jackpot"], topic := some "games ",
        sentimentTags := ["joy"], username := some "ANN", subreddit := some " r/lottery" }
    let third : Post := { second with subreddit := some "R/lottery" }
    let early : Instant := ⟨1, 0, by decide⟩
    let late : Instant := ⟨2, 0, by decide⟩
    settings.IgnoresNow ∧ first.IsRespelling second ∧ first.IsRespelling third ∧
      (ofPosts early settings [first]).nodes.keys = (ofPosts late settings [second]).nodes.keys ∧
      (ofPosts early settings [first]).edges = (ofPosts late settings [second]).edges ∧
      (ofPosts early settings [first]).edges ≠ (ofPosts late settings [third]).edges := by
  intro settings first second third early late
  have steady : settings.IgnoresNow := .inr rfl
  have same : first.IsRespelling second :=
    { others := rfl
      keywords := .cons (by decide +kernel) (.cons (by decide +kernel) .nil)
      topic := .some (by decide +kernel)
      sentimentTags := .cons (by decide +kernel) .nil
      username := .some (by decide +kernel)
      subreddit := .some (by decide +kernel) }
  have other : first.IsRespelling third :=
    { same with others := rfl, subreddit := .some (by decide +kernel) }
  have keeps : first.KeepsCommunity second := fun _ => by decide +kernel
  have ⟨keys, edges⟩ :=
    (ofPosts_respelled steady (.cons same .nil) early late).1 (.cons keeps .nil)
  refine ⟨steady, same, other, keys, edges, fun edges => ?_⟩
  have nodup : ([first].filterMap Post.identifier?).Nodup := by decide +kernel
  have lost := (ofPosts_respelled steady (.cons other .nil) early late).2 nodup edges
  have differ : first.community? ≠ third.community? := by decide +kernel
  exact differ ((List.forall₂_cons.1 lost).1 (by decide +kernel))

/-- The spelling of a community does show: the mark is dropped in one spelling only. -/
theorem not_ofPosts_respelled :
    ¬ ∀ settings : Settings, settings.IgnoresNow → ∀ (ps qs : List Post) (now later : Instant),
      List.Forall₂ Post.IsRespelling ps qs →
        (ofPosts now settings ps).nodes.keys = (ofPosts later settings qs).nodes.keys ∧
          (ofPosts now settings ps).edges = (ofPosts later settings qs).edges := by
  intro claim
  let postOf (community : String) : Post := { id := "p", subreddit := some community }
  let now : Instant := ⟨0, 0, by decide⟩
  have respelled : (postOf "r/games").IsRespelling (postOf "R/games") :=
    { others := rfl
      keywords := .nil
      topic := .none
      sentimentTags := .nil
      username := .none
      subreddit := .some (by decide +kernel) }
  obtain ⟨keys, -⟩ := claim {} (.inl rfl) [postOf "r/games"] [postOf "R/games"] now now
    (.cons respelled .nil)
  have differ : (ofPosts now {} [postOf "r/games"]).nodes.keys ≠
      (ofPosts now {} [postOf "R/games"]).nodes.keys := by decide +kernel
  exact differ keys

end Graph

end KnowledgeGraph

import KnowledgeGraph.Proofs.Graph.PlannedPost
import KnowledgeGraph.Proofs.Identity
import KnowledgeGraph.Proofs.Keyword.Collection

/-!
# The keywords of a post as nodes

A post tells its keywords apart by their normal forms.  The node of a keyword is named by the
normal form of its normal form.  So two keywords of one post are one node exactly when normalizing
once more makes their normal forms equal, provided that the digest tells the named texts apart
(`CollisionFree`).

For most texts a normal form is its own normal form, and then the keywords of a post stay
distinct.  There are texts for which it is not: when an invisible mark stands between a letter and
an accent, removing it leaves a pair that only the next normalization composes.
-/

namespace KnowledgeGraph

/-! ## Digested texts -/

/-- The texts that are digested for the nodes of a post: those of its keywords, and those of the
entities without an identifier in a knowledge base. -/
def Post.digestedContents (settings : Settings) (p : Post) : List String :=
  (Keyword.ofPost settings p).map (fun s => keywordContent s.normal (p.keywordLanguage settings)) ++
    (p.entities.filter fun m => m.identifiesEntity && m.knownId?.isNone).map Mention.content

/-- The texts that are digested for a graph of posts. -/
def digestedContents (settings : Settings) (posts : List Post) : List String :=
  (posts.filter (·.identifier?.isSome)).flatMap (Post.digestedContents settings)

/-- The digest tells apart what names the keywords of a post with a name. -/
theorem CollisionFree.keyword_inj {settings : Settings} {posts : List Post}
    (free : CollisionFree (digestedContents settings posts)) {p : Post} (hp : p ∈ posts)
    (named : p.identifier?.isSome = true) {s t : Keyword.Slot}
    (hs : s ∈ Keyword.ofPost settings p) (ht : t ∈ Keyword.ofPost settings p) :
    p.keywordRef settings s = p.keywordRef settings t ↔
      Text.normalize s.normal = Text.normalize t.normal := by
  have digested {s : Keyword.Slot} (hs : s ∈ Keyword.ofPost settings p) :
      keywordContent s.normal (p.keywordLanguage settings) ∈ digestedContents settings posts := by
    refine List.mem_flatMap.2 ⟨p, List.mem_filter.2 ⟨hp, named⟩, List.mem_append_left _ ?_⟩
    exact List.mem_map_of_mem hs
  constructor
  · intro eq
    have content := free _ (digested hs) _ (digested ht) (congrArg Ref.id eq)
    simpa [keywordContent] using content
  · intro eq
    simp [Post.keywordRef, keywordIdentifier, keywordContent, eq]

/-! ## Pairs -/

/-- Pairs of different places have different elements where the elements do not repeat. -/
theorem ne_of_mem_pairsWithin {α β : Type} {f : α → β} {window : Option Nat} {as : List α}
    (nodup : (as.map f).Nodup) {pair : α × α} (h : pair ∈ pairsWithin window as) :
    f pair.1 ≠ f pair.2 := by
  induction as with
  | nil => cases h
  | cons a as ih =>
    have ⟨new, tail⟩ := List.nodup_cons.1 nodup
    rcases PlannedPost.mem_pairsWithin_cons h with ⟨b, mem, rfl⟩ | later
    · intro eq
      exact new (eq ▸ List.mem_map_of_mem mem)
    · exact ih tail later

/-! ## Distinct keywords -/

/-- The keywords of one post stay distinct in the graph: the edges from a post to its keywords
lead to different nodes, and no keyword occurs together with itself. -/
structure KeywordsDistinct (now : Instant) (settings : Settings) (posts : List Post) : Prop where
  /-- The edges of a post to keywords lead to different nodes. -/
  mentions : ∀ p ∈ posts, ∀ plan, PlannedPost.of? settings p = some plan →
    (((plan.edges (.of now settings (plansOf settings posts))).filter
      (·.kind == .mentionsKeyword)).map (·.target)).Nodup
  /-- The ends of an edge between keywords differ. -/
  pairs : ∀ e ∈ (Graph.ofPosts now settings posts).edges, e.kind = .coOccurs →
    e.source ≠ e.target

/-- The targets of the edges of a post to keywords. -/
theorem PlannedPost.Plans.targets_mentionsKeyword {settings : Settings} {p : Post}
    {plan : PlannedPost} (h : Plans settings p plan) (w : Weighting) :
    ((plan.edges w).filter (·.kind == .mentionsKeyword)).map (·.target) =
      (Keyword.ofPost settings p).map (p.keywordRef settings) := by
  rw [filter_edges, edgesFor, h.keywords, Post.keywordUses]
  simp [Function.comp_def]

/-- The keywords of posts stay distinct exactly if those of every post with a name have different
nodes. -/
theorem keywordsDistinct_iff_nodup (now : Instant) (settings : Settings) (posts : List Post) :
    KeywordsDistinct now settings posts ↔ ∀ p ∈ posts, p.identifier?.isSome = true →
      ((Keyword.ofPost settings p).map (p.keywordRef settings)).Nodup := by
  constructor
  · intro distinct p hp named
    obtain ⟨id, hid⟩ := Option.isSome_iff_exists.1 named
    obtain ⟨plan, planned, -⟩ := PlannedPost.exists_plan settings hid
    rw [← (PlannedPost.plans_of_of? planned).targets_mentionsKeyword]
    exact distinct.mentions p hp plan planned
  · intro nodup
    have refs {p : Post} (hp : p ∈ posts) {plan : PlannedPost}
        (plans : PlannedPost.Plans settings p plan) :
        ((Keyword.ofPost settings p).map (p.keywordRef settings)).Nodup :=
      nodup p hp (by simp [plans.identifier])
    refine ⟨fun p hp plan planned => ?_, fun e he kind => ?_⟩
    · have plans := PlannedPost.plans_of_of? planned
      rw [plans.targets_mentionsKeyword]
      exact refs hp plans
    · have he : e ∈ (Graph.ofPosts now settings posts).edgesOf .coOccurs :=
        List.mem_filter.2 ⟨he, by simp [kind]⟩
      rw [Graph.edgesOf_ofPosts] at he
      obtain ⟨plan, mem, he⟩ := List.mem_flatMap.1 he
      obtain ⟨p, hp, plans⟩ := mem_plansOf mem
      rw [PlannedPost.edgesFor] at he
      obtain ⟨pair, hpair, rfl⟩ := List.mem_map.1 he
      refine ne_of_mem_pairsWithin (f := KeywordUse.node) ?_ hpair
      simpa [plans.keywords, Post.keywordUses, Function.comp_def] using refs hp plans

/-- The keywords of a post have different nodes exactly if their normal forms stay different when
they are normalized once more. -/
theorem CollisionFree.nodup_keywordRef_iff {settings : Settings} {posts : List Post}
    (free : CollisionFree (digestedContents settings posts)) {p : Post} (hp : p ∈ posts)
    (named : p.identifier?.isSome = true) :
    ((Keyword.ofPost settings p).map (p.keywordRef settings)).Nodup ↔
      ((Keyword.ofPost settings p).map fun s => Text.normalize s.normal).Nodup := by
  simp only [List.Nodup, List.pairwise_map]
  exact List.Pairwise.iff_of_mem fun hs ht => not_congr (free.keyword_inj hp named hs ht)

/-- Where different nodes are named by different normal forms, the keywords of posts stay distinct
exactly if no two keywords that a post keeps have normal forms which normalizing once more makes
equal.  So they do wherever the normal forms of keywords are their own normal forms. -/
theorem keywords_distinct_iff (now : Instant) (settings : Settings) (posts : List Post)
    (free : CollisionFree (digestedContents settings posts)) :
    (KeywordsDistinct now settings posts ↔
      ∀ p ∈ posts, p.identifier?.isSome = true →
        ((Keyword.ofPost settings p).map fun s => Text.normalize s.normal).Nodup) ∧
    ((∀ p ∈ posts, ∀ s ∈ Keyword.ofPost settings p, Text.normalize s.normal = s.normal) →
      KeywordsDistinct now settings posts) := by
  have exact_condition : KeywordsDistinct now settings posts ↔
      ∀ p ∈ posts, p.identifier?.isSome = true →
        ((Keyword.ofPost settings p).map fun s => Text.normalize s.normal).Nodup := by
    rw [keywordsDistinct_iff_nodup]
    constructor
    · intro nodup p hp named
      exact (free.nodup_keywordRef_iff hp named).1 (nodup p hp named)
    · intro nodup p hp named
      exact (free.nodup_keywordRef_iff hp named).2 (nodup p hp named)
  refine ⟨exact_condition, fun stable => exact_condition.2 fun p hp _ => ?_⟩
  rw [List.map_congr_left (stable p hp)]
  exact Keyword.nodup_collect _ _

/-- Two keywords of one post stay distinct. -/
theorem keywords_distinct_lottery :
    let posts : List Post := [{ id := "p", keywords := ["Lottery", "jackpot", " lottery"] }]
    let now : Instant := ⟨0, 0, by decide⟩
    CollisionFree (digestedContents {} posts) ∧ KeywordsDistinct now {} posts := by
  intro posts now
  have free : CollisionFree (digestedContents {} posts) := by decide +kernel
  exact ⟨free, (keywords_distinct_iff now {} posts free).1.2 (by decide +kernel)⟩

/-- Keywords of one post need not stay distinct.  An invisible mark between a letter and its accent
makes a keyword of its own, whose node is that of the accented letter. -/
theorem not_keywords_distinct :
    ¬ ∀ (now : Instant) (settings : Settings) (posts : List Post),
      CollisionFree (digestedContents settings posts) → KeywordsDistinct now settings posts := by
  intro claim
  let posts : List Post := [{ id := "p", keywords := ["ã", "a\u200b\u0303"] }]
  let now : Instant := ⟨0, 0, by decide⟩
  have free : CollisionFree (digestedContents {} posts) := by decide +kernel
  have loop : ∃ e ∈ (Graph.ofPosts now {} posts).edges,
      e.kind = .coOccurs ∧ e.source = e.target := by
    decide +kernel
  obtain ⟨e, he, kind, eq⟩ := loop
  exact (claim now {} posts free).pairs e he kind eq

end KnowledgeGraph

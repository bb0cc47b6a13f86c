import Mathlib.Algebra.Order.BigOperators.Group.List
import Mathlib.Algebra.Order.Group.Nat
import KnowledgeGraph.Proofs.Keyword.FromText
import KnowledgeGraph.Proofs.Keyword.GraphCounts
import KnowledgeGraph.Proofs.Text.Content

/-!
# Empty keywords

A keyword whose normal form is empty is passed over when the keywords of a post are collected
(`Keyword.collect_filter`).  So it can be left out, with one exception.  A list of empty keywords is
a list of keywords, and the settings fill in keywords only where the list itself is empty.  Without
its empty keywords, such a post gets the keywords of its text (`Post.GainsKeywords`).

Leaving out empty keywords changes the graph exactly if a post with a name gains keywords in this
way (`Graph.ofPosts_withoutEmptyKeywords_iff`): all other posts give what they gave before, and this
one has edges to keywords where it had none.
-/

namespace KnowledgeGraph

namespace Keyword

variable {limit : Nat} {entries : List String}

/-! ## Collecting -/

/-- Entries with an empty normal form are passed over. -/
theorem collect_filter (limit : Nat) (entries : List String) :
    collect limit (entries.filter (Text.normalize · ≠ "")) = collect limit entries := by
  have passes (slots : List Slot) (e : String) :
      (if decide (Text.normalize e ≠ "") = true then collectEntry limit slots e else slots) =
        collectEntry limit slots e := by
    by_cases empty : Text.normalize e = ""
    · simp [collectEntry, empty]
    · simp [empty]
  rw [collect, List.foldl_filter]
  simp only [passes]
  rw [← collect]

/-- Nothing is kept exactly if all normal forms are empty. -/
theorem collect_eq_nil_iff (room : limit ≠ 0) :
    collect limit entries = [] ↔ ∀ e ∈ entries, Text.normalize e = "" := by
  have none : collect limit entries = [] ↔ normalForms entries = [] := by
    rw [← List.map_eq_nil_iff (f := Slot.normal), (isKept_collect limit entries).normals,
      List.take_eq_nil_iff, or_iff_right room]
  rw [none, List.eq_nil_iff_forall_not_mem]
  constructor
  · intro absent e mem
    by_contra filled
    exact absent _ (mem_normalForms.2 ⟨filled, e, mem, rfl⟩)
  · intro empty n mem
    obtain ⟨filled, e, given, rfl⟩ := mem_normalForms.1 mem
    exact filled (empty e given)

/-! ## Keywords from a text -/

/-- No keyword of a text is passed over when they are collected. -/
theorem normalize_ne_empty_of_mem_fromText {text e : String} (h : e ∈ fromText text limit) :
    Text.normalize e ≠ "" := by
  obtain ⟨s, rfl, filled⟩ := exists_of_mem_fromText h
  exact Text.normalize_ne_empty_iff.2 (Text.hasContent_normalize filled)

end Keyword

/-! ## Posts -/

namespace Post

/-- A post without the keywords whose normal form is empty. -/
def withoutEmptyKeywords (p : Post) : Post :=
  { p with keywords := p.keywords.filter (Text.normalize · ≠ "") }

/-- A post has keywords, all of them are empty, and where it has none the settings find some in its
text. -/
structure GainsKeywords (settings : Settings) (p : Post) : Prop where
  /-- The settings take keywords from the text. -/
  fills : settings.fillKeywords = true
  /-- There are keywords. -/
  given : p.keywords ≠ []
  /-- All of them are empty. -/
  empty : ∀ k ∈ p.keywords, Text.normalize k = ""
  /-- There are keywords in the text. -/
  found : Keyword.fromText p.text settings.keywordLimit ≠ []

theorem keywordLimit_ne_zero (settings : Settings) : settings.keywordLimit ≠ 0 := by
  rw [Settings.keywordLimit]
  split
  · decide
  · assumption

variable {settings : Settings} {p : Post}

/-- A post that gains keywords keeps some after keeping none. -/
theorem GainsKeywords.ofPost (h : p.GainsKeywords settings) :
    Keyword.ofPost settings p = [] ∧ Keyword.ofPost settings p.withoutEmptyKeywords ≠ [] := by
  have none : p.withoutEmptyKeywords.keywords = [] := by
    simpa [withoutEmptyKeywords] using h.empty
  have limit := keywordLimit_ne_zero settings
  constructor
  · rw [Keyword.ofPost, Keyword.collect_eq_nil_iff limit, Keyword.entries]
    simpa [h.given] using h.empty
  · rw [Keyword.ofPost, Ne, Keyword.collect_eq_nil_iff limit, Keyword.entries]
    obtain ⟨e, mem⟩ := List.exists_mem_of_ne_nil _ h.found
    intro empty
    refine Keyword.normalize_ne_empty_of_mem_fromText mem (empty e ?_)
    rw [h.fills, none]
    exact mem

/-- Every other post keeps what it kept. -/
theorem ofPost_withoutEmptyKeywords (h : ¬ p.GainsKeywords settings) :
    Keyword.ofPost settings p.withoutEmptyKeywords = Keyword.ofPost settings p := by
  by_cases given : p.keywords = []
  · have same : p.withoutEmptyKeywords = p := by
      rw [withoutEmptyKeywords, given, List.filter_nil, ← given]
    rw [same]
  · have before : Keyword.entries settings p = p.keywords := by
      simp [Keyword.entries, given]
    have after : Keyword.entries settings p.withoutEmptyKeywords =
        p.withoutEmptyKeywords.keywords := by
      rw [Keyword.entries]
      split
      · next anew =>
        obtain ⟨fills, none⟩ : settings.fillKeywords = true ∧
            p.withoutEmptyKeywords.keywords = [] := by simpa using anew
        have empty : ∀ k ∈ p.keywords, Text.normalize k = "" := by
          simpa [withoutEmptyKeywords] using none
        rw [none]
        by_contra found
        exact h ⟨fills, given, empty, found⟩
      · rfl
    rw [Keyword.ofPost, after, withoutEmptyKeywords, Keyword.collect_filter, Keyword.ofPost, before]

/-- So no post keeps fewer keywords than before. -/
theorem length_ofPost_le (settings : Settings) (p : Post) :
    (Keyword.ofPost settings p).length ≤
      (Keyword.ofPost settings p.withoutEmptyKeywords).length := by
  by_cases gains : p.GainsKeywords settings
  · rw [gains.ofPost.1]
    exact Nat.zero_le _
  · rw [ofPost_withoutEmptyKeywords gains]

/-- A post that does not gain keywords has the same plan. -/
theorem plan_withoutEmptyKeywords (h : ¬ p.GainsKeywords settings) :
    PlannedPost.of? settings p.withoutEmptyKeywords = PlannedPost.of? settings p := by
  simp only [PlannedPost.of?, ofPost_withoutEmptyKeywords h]
  rfl

end Post

/-! ## Graphs -/

theorem namedPosts_withoutEmptyKeywords (posts : List Post) :
    namedPosts (posts.map Post.withoutEmptyKeywords) =
      (namedPosts posts).map fun q => (q.1, q.2.withoutEmptyKeywords) := by
  rw [namedPosts, namedPosts, List.filterMap_map, List.map_filterMap]
  refine List.filterMap_congr fun p _ => ?_
  rw [Option.map_map]
  rfl

namespace Graph

variable {now : Instant} {settings : Settings} {posts : List Post}

/-- The edges to keywords, counted post by post. -/
theorem length_mentionsKeyword (now : Instant) (settings : Settings) (posts : List Post) :
    ((Graph.ofPosts now settings posts).edgesOf .mentionsKeyword).length =
      ((namedPosts posts).map fun q => (Keyword.ofPost settings q.2).length).sum := by
  have ends := congrArg List.length (ends_mentionsKeyword now settings posts)
  simpa [List.length_flatMap] using ends

/-- Leaving out the empty keywords of posts leaves their graph as it is exactly if no post with a
name gains keywords from its text. -/
theorem ofPosts_withoutEmptyKeywords_iff (now : Instant) (settings : Settings)
    (posts : List Post) :
    Graph.ofPosts now settings (posts.map Post.withoutEmptyKeywords) =
        Graph.ofPosts now settings posts ↔
      ∀ p ∈ posts, p.identifier?.isSome = true → ¬ p.GainsKeywords settings := by
  constructor
  · intro same p hp isNamed gains
    obtain ⟨id, named⟩ := Option.isSome_iff_exists.1 isNamed
    have counts := congrArg (fun g => (g.edgesOf .mentionsKeyword).length) same
    simp only [length_mentionsKeyword, namedPosts_withoutEmptyKeywords, List.map_map] at counts
    have more : ((namedPosts posts).map fun q => (Keyword.ofPost settings q.2).length).sum <
        ((namedPosts posts).map fun q =>
          (Keyword.ofPost settings q.2.withoutEmptyKeywords).length).sum := by
      refine List.sum_lt_sum _ _ (fun q _ => Post.length_ofPost_le settings q.2)
        ⟨(id, p), mem_namedPosts hp named, ?_⟩
      obtain ⟨none, some⟩ := gains.ofPost
      rw [none]
      exact List.length_pos_iff.2 some
    exact absurd counts more.ne'
  · intro keeps
    have plans : (posts.map Post.withoutEmptyKeywords).filterMap (PlannedPost.of? settings) =
        posts.filterMap (PlannedPost.of? settings) := by
      rw [List.filterMap_map]
      refine List.filterMap_congr fun p hp => ?_
      cases named : p.identifier? with
      | none =>
        have unnamed : p.withoutEmptyKeywords.identifier? = none := named
        rw [Function.comp_apply, PlannedPost.of?, unnamed, PlannedPost.of?, named]
        rfl
      | some id => exact Post.plan_withoutEmptyKeywords (keeps p hp (by simp [named]))
    rw [Graph.ofPosts, Graph.ofPosts, plans]

/-- A post whose only keyword is the empty text has none, and has one from its text without it. -/
theorem not_ofPosts_withoutEmptyKeywords :
    ¬ ∀ (now : Instant) (settings : Settings) (posts : List Post),
      Graph.ofPosts now settings (posts.map Post.withoutEmptyKeywords) =
        Graph.ofPosts now settings posts := by
  intro claim
  let settings : Settings := { fillKeywords := true }
  let posts : List Post := [{ id := "p", text := "Powerball", keywords := [""] }]
  let now : Instant := ⟨0, 0, by decide⟩
  have counts := congrArg (fun g => (g.edgesOf .mentionsKeyword).length) (claim now settings posts)
  have different : ((Graph.ofPosts now settings (posts.map Post.withoutEmptyKeywords)).edgesOf
      .mentionsKeyword).length ≠
        ((Graph.ofPosts now settings posts).edgesOf .mentionsKeyword).length := by
    decide +kernel
  exact different counts

end Graph

end KnowledgeGraph

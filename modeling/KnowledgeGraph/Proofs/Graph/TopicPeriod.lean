import KnowledgeGraph.Proofs.Graph.Corpus
import KnowledgeGraph.Proofs.Graph.PostNodes
import KnowledgeGraph.Proofs.Graph.Topic
import KnowledgeGraph.Proofs.Text.Normal

/-!
# The posts of a topic in a period

A period does not see the time of a post, but what the node of the post says about it: the time to
the second, in writing.  So a post with a topic is selected when its whole second lies in the
period, and only if its year has four digits (`Graph.isInPeriod_ofPosts`).  A period that begins
within a second leaves out a post of a later part of that second.
-/

namespace KnowledgeGraph

open Text (presence?)

variable {settings : Settings} {posts : List Post} {p : Post} {id topic : String}

/-! ## Topics -/

/-- The post has a topic that is not blank and has the normal form of a text. -/
def Post.IsAbout (p : Post) (topic : String) : Prop :=
  ∃ label, p.topic = some label ∧ presence? label ≠ none ∧
    Text.normalize label = Text.normalize topic

/-- Trimming a topic does not matter. -/
theorem Post.isAbout_iff : p.IsAbout topic ↔
    ∃ label, p.topic.bind presence? = some label ∧ Text.normalize label = Text.normalize topic := by
  constructor
  · rintro ⟨raw, has, filled, same⟩
    obtain ⟨label, trimmed⟩ := Option.ne_none_iff_exists'.1 filled
    refine ⟨label, by rw [has, Option.bind_some, trimmed], ?_⟩
    rw [Text.normalize_of_presence? trimmed, same]
  · rintro ⟨label, has, same⟩
    obtain ⟨raw, has, trimmed⟩ := Option.bind_eq_some_iff.1 has
    refine ⟨raw, has, by simp [trimmed], ?_⟩
    rw [← Text.normalize_of_presence? trimmed, same]

namespace Graph

/-- The edges from posts to their topics. -/
theorem mem_hasTopic_ofPosts {now : Instant} {e : Edge} :
    e ∈ (Graph.ofPosts now settings posts).edgesOf .hasTopic ↔
      ∃ p ∈ posts, ∃ id label, p.identifier? = some id ∧ p.topic.bind presence? = some label ∧
        e = plainEdge .hasTopic ⟨.post, id⟩ ⟨.topic, Text.normalize label⟩ :=
  mem_edgesOf_ofPosts PlannedPost.topic (fun _ _ => rfl) fun _ _ plans => plans.topic

/-! ## Times -/

/-- The node of a post lies in a period if the whole second of the post does and reads back. -/
theorem isInPeriod_ofPosts (now : Instant) (settings : Settings)
    (nodup : (posts.filterMap Post.identifier?).Nodup) (hp : p ∈ posts)
    (named : p.identifier? = some id) (period : Period) :
    (Graph.ofPosts now settings posts).isInPeriod period ⟨.post, id⟩ = true ↔
      ∃ t, p.instant? = some t ∧ (0 ≤ t.date.year ∧ t.date.year < 10000) ∧
        period.contains t.truncated = true := by
  rw [isInPeriod, node?_ofPosts now settings nodup hp named, Option.bind_some,
    Post.timestamp_postNode]
  cases time : p.instant? with
  | none => simp
  | some t =>
    rw [Option.map_some, Option.bind_some, Time.ofText?_written]
    split
    · next year => simp [year]
    · next year => simp [year]

/-- In a graph of posts, the posts of a topic in a period are those with that topic whose time, cut
to its whole second, lies in the period, provided that its year has four digits. -/
theorem posts_aroundTopic (now : Instant) (settings : Settings) {posts : List Post}
    (nodup : (posts.filterMap Post.identifier?).Nodup) {topic : String}
    (named : Text.normalize topic ≠ "") (period : Period) (id : String) :
    (∃ n ∈ ((Graph.ofPosts now settings posts).aroundTopic topic (some period)).nodesOf .post,
      n.id = id) ↔
    ∃ p ∈ posts, p.identifier? = some id ∧ p.IsAbout topic ∧
      ∃ t, p.instant? = some t ∧ (0 ≤ t.date.year ∧ t.date.year < 10000) ∧
        period.contains t.truncated = true := by
  have wf := isWellFormed_ofPosts now settings posts
  constructor
  · rintro ⟨n, mem, rfl⟩
    obtain ⟨selected, -⟩ := (wf.mem_nodesOf_aroundTopic named).1 mem
    obtain ⟨⟨e, he, source, target⟩, -, inside⟩ := mem_topicPosts.1 selected
    obtain ⟨p, hp, id, label, hid, has, rfl⟩ := mem_hasTopic_ofPosts.1 he
    rw [source_plainEdge] at source
    rw [target_plainEdge, topicRef, Ref.mk.injEq] at target
    have own : n.id = id := congrArg Ref.id source.symm
    have inside := inside period rfl
    rw [← source] at inside
    rw [own]
    refine ⟨p, hp, hid, Post.isAbout_iff.2 ⟨label, has, target.2⟩, ?_⟩
    exact (isInPeriod_ofPosts now settings nodup hp hid period).1 inside
  · rintro ⟨p, hp, hid, about, time⟩
    obtain ⟨label, has, same⟩ := Post.isAbout_iff.1 about
    have found := node?_ofPosts now settings nodup hp hid
    have ref := ref_postNode settings p id (Keyword.ofPost settings p).length
    have selected : (⟨.post, id⟩ : Ref) ∈
        (Graph.ofPosts now settings posts).topicPosts (topicRef topic) (some period) := by
      have edge : plainEdge .hasTopic ⟨.post, id⟩ ⟨.topic, Text.normalize label⟩ ∈
          (Graph.ofPosts now settings posts).edgesOf .hasTopic :=
        mem_hasTopic_ofPosts.2 ⟨p, hp, id, label, hid, has, rfl⟩
      have target : (⟨.topic, Text.normalize label⟩ : Ref) = topicRef topic := by
        rw [topicRef, same]
      have inside := (isInPeriod_ofPosts now settings nodup hp hid period).2 time
      refine mem_topicPosts.2 ⟨⟨_, edge, rfl, target⟩, rfl, fun q hq => ?_⟩
      rw [← Option.mem_some.1 hq]
      exact inside
    refine ⟨_, (wf.mem_nodesOf_aroundTopic named).2 ⟨?_, ?_⟩, congrArg Ref.id ref⟩
    · rw [ref]
      exact selected
    · rw [ref]
      exact found

/-- A post of the second that the period consists of, though of a later part of it. -/
theorem posts_aroundTopic_noon :
    let posts : List Post :=
      [{ id := "p", topic := some " Gaming", publishedAt := some "2024-03-01T12:00:00.900Z" }]
    let noon : Instant := ⟨1709294400, 0, by decide⟩
    ∃ n ∈ ((Graph.ofPosts noon {} posts).aroundTopic "GAMING"
      (some (.ofEnds noon noon))).nodesOf .post, n.id = "p" := by
  intro posts noon
  let late : Instant := ⟨1709294400, 900000000, by decide⟩
  have nodup : (posts.filterMap Post.identifier?).Nodup := by decide +kernel
  have named : Text.normalize "GAMING" ≠ "" := by decide +kernel
  refine (posts_aroundTopic noon {} nodup named (.ofEnds noon noon) "p").2
    ⟨posts[0], by simp, by decide +kernel, ?_, late, by decide +kernel, by decide, by decide⟩
  exact ⟨" Gaming", rfl, by decide +kernel, by decide +kernel⟩

/-- The posts of every topic in a period are those with that topic whose time lies in the period. -/
def SelectsByTime (now : Instant) (settings : Settings) (posts : List Post) : Prop :=
  ∀ topic : String, Text.normalize topic ≠ "" → ∀ (period : Period) (id : String),
    (∃ n ∈ ((Graph.ofPosts now settings posts).aroundTopic topic (some period)).nodesOf .post,
      n.id = id) ↔
    ∃ p ∈ posts, p.identifier? = some id ∧ p.IsAbout topic ∧
      ∃ t, p.instant? = some t ∧ period.contains t = true

/-- The time of a post itself need not decide.  A period that begins within a second leaves out a
post of a later part of that second, and even where all times are whole seconds, no period has a
post of the year 10000. -/
theorem not_selectsByTime :
    (¬ ∀ (now : Instant) (settings : Settings) (posts : List Post),
      (posts.filterMap Post.identifier?).Nodup → SelectsByTime now settings posts) ∧
    ¬ ∀ (now : Instant) (settings : Settings) (posts : List Post),
      (posts.filterMap Post.identifier?).Nodup →
        (∀ p ∈ posts, ∀ t, p.instant? = some t → t.truncated = t) →
          SelectsByTime now settings posts := by
  let postOf (time : String) : Post := { id := "p", topic := some "t", publishedAt := some time }
  have about (time : String) : (postOf time).IsAbout "t" := ⟨"t", rfl, by decide +kernel, rfl⟩
  have nodup (time : String) : ([postOf time].filterMap Post.identifier?).Nodup := by
    simp only [List.filterMap_cons, List.filterMap_nil]
    split <;> simp
  have named : Text.normalize "t" ≠ "" := by decide +kernel
  have nobody {ns : List Node} (none : ns.isEmpty = true) : ¬ ∃ n ∈ ns, n.id = "p" := by
    simp [List.isEmpty_iff.1 none]
  let noon : Instant := ⟨1709294400, 0, by decide⟩
  constructor
  · intro claim
    let quarter : Instant := ⟨1709294400, 250000000, by decide⟩
    let half : Instant := ⟨1709294400, 500000000, by decide⟩
    let post := postOf "2024-03-01T12:00:00.500Z"
    have selected := (claim noon {} [post] (nodup _) "t" named ⟨some quarter, none⟩ "p").2
      ⟨post, by simp, by decide +kernel, about _, half, by decide +kernel, by decide⟩
    exact nobody (by decide +kernel) selected
  · intro claim
    let late : Instant := ⟨253402300800, 0, by decide⟩
    let post := postOf "+10000-01-01"
    have time : post.instant? = some late := by decide +kernel
    have whole : ∀ p ∈ [post], ∀ t, p.instant? = some t → t.truncated = t := by
      intro p hp t ht
      rw [List.mem_singleton.1 hp, time] at ht
      rw [← Option.some.inj ht]
      decide
    have selected := (claim noon {} [post] (nodup _) whole "t" named ⟨none, none⟩ "p").2
      ⟨post, by simp, by decide +kernel, about _, late, time, by decide⟩
    exact nobody (by decide +kernel) selected

end Graph

end KnowledgeGraph

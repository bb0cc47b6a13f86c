import KnowledgeGraph.Proofs.Graph.PlannedPost
import KnowledgeGraph.Proofs.Keyword.Statistics
import KnowledgeGraph.Proofs.Number.Binary64

/-!
# Weights of keywords

The weight of a keyword in a post depends on every post with a name, also on later ones.  Here it is
read off the posts alone: how often the keyword occurs in the post, among how many keywords, how
many posts keep it, and how old the post is (`mentionEdge`).

A graph of posts gets there in two passes.  The first one plans all posts and counts their keywords
(`statisticsOf_plansOf`), and the second one gives every plan its edges.  A post without a name has
no plan, so it takes part in neither.
-/

namespace KnowledgeGraph

/-! ## Counting posts -/

/-- The identifiers of the keywords that a post keeps. -/
def Post.keywordIds (settings : Settings) (p : Post) : List String :=
  (Keyword.ofPost settings p).map fun s => (p.keywordRef settings s).id

/-- The number of posts with a name that keep a keyword. -/
def postsKeeping (settings : Settings) (posts : List Post) (keyword : String) : Nat :=
  (namedPosts posts).countP fun q => keyword ∈ q.2.keywordIds settings

theorem postsKeeping_le (settings : Settings) (posts : List Post) (keyword : String) :
    postsKeeping settings posts keyword ≤ (namedPosts posts).length :=
  List.countP_le_length

theorem one_le_postsKeeping {settings : Settings} {posts : List Post} {q : String × Post}
    (named : q ∈ namedPosts posts) {s : Keyword.Slot} (kept : s ∈ Keyword.ofPost settings q.2) :
    1 ≤ postsKeeping settings posts (q.2.keywordRef settings s).id := by
  have keeps : (q.2.keywordRef settings s).id ∈ q.2.keywordIds settings :=
    List.mem_map_of_mem kept
  exact List.countP_pos_iff.2 ⟨q, named, by simpa using keeps⟩

/-! ## Weights read off the posts -/

/-- The share of a kept keyword in the keywords of its post. -/
def Post.share (settings : Settings) (p : Post) (s : Keyword.Slot) : Float :=
  Float.ofNat s.occurrences / Float.ofNat (Keyword.ofPost settings p).length

/-- How rare a keyword is among the posts with a name. -/
def rarityAmong (settings : Settings) (posts : List Post) (keyword : String) : Float :=
  let total := (namedPosts posts).length
  let keeping := postsKeeping settings posts keyword
  if keeping = total then 1.0 else 1.0 + (Float.ofNat total / Float.ofNat keeping).log

/-- The factor by which the weights of a post fade if the time constant is finite and positive.  It
is `exp (-age / τ)`, with the age in days up to the reference, or up to `now` without one.  A post
from the future has age 0, and one without a time does not fade. -/
def Post.fading? (now : Instant) (settings : Settings) (p : Post) : Option Float :=
  match settings.tauDays with
  | none => none
  | some τ =>
    if τ.isFinite ∧ 0 < τ then
      match p.instant? with
      | none => some 1.0
      | some t =>
        let millis : Int := max 0 ((settings.reference.getD now).millisSince t)
        some (-(Float.ofInt millis / 86400000.0) / τ).exp
    else none

/-- The edge from a post to a keyword that it keeps. -/
def mentionEdge (now : Instant) (settings : Settings) (posts : List Post) (id : String)
    (p : Post) (s : Keyword.Slot) : Edge :=
  let keyword := p.keywordRef settings s
  let tf := p.share settings s
  let idf := rarityAmong settings posts keyword.id
  let plain := if settings.weighRarity then tf * idf else 1.0
  let factor := p.fading? now settings
  { kind := .mentionsKeyword
    source := ⟨.post, id⟩
    target := keyword
    properties := .ofList ([("occurrences", .ofNat s.occurrences)] ++
      (if settings.weighRarity then [("tf", .ofFloat tf), ("idf", .ofFloat idf)] else []) ++
      factor.toList.map (fun f => ("decay", .ofFloat f)) ++
      [("weight", .ofFloat (factor.elim plain (plain * ·)))]) }

/-! ## The first pass -/

/-- The first pass counts, plan by plan, the keywords of the plans. -/
theorem statisticsOf_eq_observeAll (plans : List PlannedPost) :
    statisticsOf plans = Keyword.Statistics.observeAll
      (plans.map fun plan => plan.keywords.map (·.node.id)) := by
  rw [Keyword.Statistics.observeAll, List.foldl_map, statisticsOf]

/-- The first pass counts the posts with a name, and the ones among them that keep a keyword. -/
theorem statisticsOf_plansOf (settings : Settings) (posts : List Post) (keyword : String) :
    (statisticsOf (plansOf settings posts)).total = (namedPosts posts).length ∧
      (statisticsOf (plansOf settings posts)).postCount keyword =
        postsKeeping settings posts keyword := by
  have ids : (plansOf settings posts).map (fun plan => plan.keywords.map (·.node.id)) =
      (namedPosts posts).map fun q => q.2.keywordIds settings := by
    refine map_plansOf fun p _ plan plans => ?_
    rw [plans.keywords, Post.keywordUses, List.map_map]
    rfl
  rw [statisticsOf_eq_observeAll, ids]
  constructor
  · rw [Keyword.Statistics.total_observeAll, List.length_map]
  · rw [Keyword.Statistics.postCount_observeAll, List.countP_map]
    rfl

/-- A keyword that a post keeps is as rare by the statistics as it is among the posts. -/
theorem rarity_statisticsOf {settings : Settings} {posts : List Post} {q : String × Post}
    (named : q ∈ namedPosts posts) {s : Keyword.Slot} (kept : s ∈ Keyword.ofPost settings q.2) :
    (statisticsOf (plansOf settings posts)).rarity (q.2.keywordRef settings s).id =
      rarityAmong settings posts (q.2.keywordRef settings s).id := by
  have ⟨total, keeping⟩ := statisticsOf_plansOf settings posts (q.2.keywordRef settings s).id
  have most := postsKeeping_le settings posts (q.2.keywordRef settings s).id
  have least := one_le_postsKeeping named kept
  rw [Keyword.Statistics.rarity, total, keeping, Nat.max_eq_left least, rarityAmong]
  by_cases everywhere :
      postsKeeping settings posts (q.2.keywordRef settings s).id = (namedPosts posts).length
  · simp [everywhere]
  · have fewer : ¬ (namedPosts posts).length ≤
        postsKeeping settings posts (q.2.keywordRef settings s).id := by omega
    simp [everywhere, fewer]

/-! ## The second pass -/

/-- The decay of a graph of posts makes a post fade. -/
theorem Post.fading?_eq (now : Instant) (settings : Settings) (p : Post) :
    p.fading? now settings =
      (Decay.of? now settings.tau settings.reference).map (·.factor p.instant?) := by
  rw [fading?, Decay.of?, Settings.tau]
  cases settings.tauDays with
  | none => rfl
  | some τ =>
    by_cases inUse : τ.isFinite = true ∧ 0 < τ
    · have isTau : Settings.isTau τ = true := by
        simpa [Settings.isTau, Number.isFinite_eq] using inUse
      cases p.instant? <;>
        simp [inUse, isTau, Option.filter_some, Decay.factor, Decay.ageMillis, Decay.dayMillis]
    · have isTau : Settings.isTau τ = false := by
        simpa [Settings.isTau, Number.isFinite_eq] using inUse
      simp [inUse, isTau, Option.filter_some]

/-- The edge of a plan to a keyword is the one that is read off the posts. -/
theorem PlannedPost.Plans.keywordEdge_eq (now : Instant) {settings : Settings} {posts : List Post}
    {p : Post} {plan : PlannedPost} (h : Plans settings p plan)
    (named : (plan.post.id, p) ∈ namedPosts posts) {s : Keyword.Slot}
    (kept : s ∈ Keyword.ofPost settings p) :
    plan.keywordEdge (.of now settings (plansOf settings posts))
        ⟨p.keywordRef settings s, s.occurrences⟩ =
      mentionEdge now settings posts plan.post.id p s := by
  have count : plan.keywords.length = (Keyword.ofPost settings p).length := by
    rw [h.keywords, Post.keywordUses, List.length_map]
  have some : (Keyword.ofPost settings p).length ≠ 0 := by
    have := List.length_pos_of_mem kept
    omega
  have share : Keyword.share s.occurrences plan.keywords.length = p.share settings s := by
    rw [count, Keyword.share, if_neg some, Post.share]
  simp only [keywordEdge, mentionEdge, Weighting.of, share, rarity_statisticsOf named kept,
    h.instant, ← h.post_eq, Post.fading?_eq]
  cases settings.weighRarity <;>
    cases Decay.of? now settings.tau settings.reference <;>
      rfl

/-- Every post with a name gives, in order, one edge for each keyword that it keeps, weighted by all
posts with a name.  The post itself keeps the keyword, so at least one post does, and at most all
do. -/
theorem Graph.keywordMentions_ofPosts (now : Instant) (settings : Settings) (posts : List Post) :
    (Graph.ofPosts now settings posts).edgesOf .mentionsKeyword =
      ((namedPosts posts).flatMap fun q =>
        (Keyword.ofPost settings q.2).map (mentionEdge now settings posts q.1 q.2)) ∧
    ∀ q ∈ namedPosts posts, ∀ s ∈ Keyword.ofPost settings q.2,
      1 ≤ postsKeeping settings posts (q.2.keywordRef settings s).id ∧
        postsKeeping settings posts (q.2.keywordRef settings s).id ≤ (namedPosts posts).length := by
  refine ⟨?_, fun q named s kept => ⟨one_le_postsKeeping named kept, postsKeeping_le _ _ _⟩⟩
  rw [edgesOf_ofPosts, List.flatMap_def, List.flatMap_def]
  congr 1
  refine map_plansOf fun p hp plan plans => ?_
  have named := mem_namedPosts hp plans.identifier
  rw [PlannedPost.edgesFor, plans.keywords, Post.keywordUses, List.map_map]
  exact List.map_congr_left fun s kept => plans.keywordEdge_eq now named kept

/-- Two posts that keep one keyword in two spellings, around one without a name.  The first one is
a week old by the reference, and the last one has no time. -/
theorem keywordMentions_lottery :
    let first : Post :=
      { id := "p", keywords := ["Lottery", "jackpot", " LOTTERY"]
        createdAt := some "2024-03-03T00:00:00Z" }
    let last : Post := { uri := "q", keywords := ["lottery"] }
    let unnamed : Post := { keywords := ["jackpot"] }
    let posts : List Post := [first, unnamed, last]
    let now : Instant := ⟨0, 0, by decide⟩
    let reference : Instant := ⟨1710028800, 0, by decide⟩
    let settings : Settings := { tauDays := some 7.0, reference := some reference }
    let lottery := first.keywordRef settings ⟨"Lottery", "lottery", 2⟩
    let fading : Float := (-1.0 : Float).exp
    let rarity : Float := 1.0 + (2.0 : Float).log
    (Graph.ofPosts now settings posts).edgesOf .mentionsKeyword =
        [mentionEdge now settings posts "p" first ⟨"Lottery", "lottery", 2⟩,
          mentionEdge now settings posts "p" first ⟨"jackpot", "jackpot", 1⟩,
          mentionEdge now settings posts "q" last ⟨"lottery", "lottery", 1⟩] ∧
      ((Graph.ofPosts now settings posts).edgesOf .mentionsKeyword).map (·.properties) =
        [.ofList [("occurrences", .ofNat 2), ("tf", .ofFloat 1.0), ("idf", .ofFloat 1.0),
            ("decay", .ofFloat fading), ("weight", .ofFloat (1.0 * fading))],
          .ofList [("occurrences", .ofNat 1), ("tf", .ofFloat 0.5), ("idf", .ofFloat rarity),
            ("decay", .ofFloat fading), ("weight", .ofFloat (0.5 * rarity * fading))],
          .ofList [("occurrences", .ofNat 1), ("tf", .ofFloat 1.0), ("idf", .ofFloat 1.0),
            ("decay", .ofFloat 1.0), ("weight", .ofFloat 1.0)]] ∧
      1 ≤ postsKeeping settings posts lottery.id ∧ postsKeeping settings posts lottery.id ≤ 2 := by
  intro first last unnamed posts now reference settings lottery fading rarity
  have named : namedPosts posts = [("p", first), ("q", last)] := by
    have p : first.identifier? = some "p" := by decide +kernel
    have none : unnamed.identifier? = none := by decide +kernel
    have q : last.identifier? = some "q" := by decide +kernel
    simp [namedPosts, posts, p, none, q]
  have firstKeeps : Keyword.ofPost settings first =
      [⟨"Lottery", "lottery", 2⟩, ⟨"jackpot", "jackpot", 1⟩] := by decide +kernel
  have lastKeeps : Keyword.ofPost settings last = [⟨"lottery", "lottery", 1⟩] := by decide +kernel
  have ⟨edges, bounds⟩ := Graph.keywordMentions_ofPosts now settings posts
  rw [named] at edges bounds
  have listed : (Graph.ofPosts now settings posts).edgesOf .mentionsKeyword =
      [mentionEdge now settings posts "p" first ⟨"Lottery", "lottery", 2⟩,
        mentionEdge now settings posts "p" first ⟨"jackpot", "jackpot", 1⟩,
        mentionEdge now settings posts "q" last ⟨"lottery", "lottery", 1⟩] := by
    rw [edges]
    simp [firstKeeps, lastKeeps]
  have counted := bounds ("p", first) (by simp) ⟨"Lottery", "lottery", 2⟩ (by simp [firstKeeps])
  refine ⟨listed, ?_, counted⟩
  -- The age is one time constant by the reference.  By `now`, the first post is in the future.
  have tau : (7.0 : Float).isFinite = true ∧ (0 : Float) < 7.0 := by decide +kernel
  have fades : first.fading? now settings = some fading := by
    have time : first.instant? = some ⟨1709424000, 0, by decide⟩ := by decide +kernel
    have age : max 0 (reference.millisSince ⟨1709424000, 0, by decide⟩) = 604800000 := by decide
    have week : -(Float.ofInt 604800000 / 86400000.0) / (7.0 : Float) = -1.0 := by decide +kernel
    simp only [Post.fading?, settings, if_pos tau, time, Option.getD_some, age, week]
    rfl
  have stays : last.fading? now settings = some 1.0 := by
    have time : last.instant? = none := by decide +kernel
    simp only [Post.fading?, settings, if_pos tau, time]
  have shares : first.share settings ⟨"Lottery", "lottery", 2⟩ = 1.0 ∧
      first.share settings ⟨"jackpot", "jackpot", 1⟩ = 0.5 ∧
      last.share settings ⟨"lottery", "lottery", 1⟩ = 1.0 := by decide +kernel
  -- Both posts keep the one keyword, and only the first one keeps the other.
  have same : last.keywordRef settings ⟨"lottery", "lottery", 1⟩ =
      first.keywordRef settings ⟨"Lottery", "lottery", 2⟩ := by rfl
  have other : (first.keywordRef settings ⟨"Lottery", "lottery", 2⟩).id ≠
      (first.keywordRef settings ⟨"jackpot", "jackpot", 1⟩).id := by decide +kernel
  have common : rarityAmong settings posts
      (first.keywordRef settings ⟨"Lottery", "lottery", 2⟩).id = 1.0 := by
    simp [rarityAmong, postsKeeping, Post.keywordIds, named, firstKeeps, lastKeeps, same]
  have rare : rarityAmong settings posts
      (first.keywordRef settings ⟨"jackpot", "jackpot", 1⟩).id = rarity := by
    have half : Float.ofNat 2 / Float.ofNat 1 = 2.0 := by decide +kernel
    simp [rarityAmong, postsKeeping, Post.keywordIds, named, firstKeeps, lastKeeps, same, other,
      half, rarity]
  have weighs : settings.weighRarity = true := rfl
  have unchanged : (1.0 : Float) * 1.0 = 1.0 := by decide +kernel
  rw [listed]
  simp [mentionEdge, weighs, fades, stays, shares, same, common, rare, unchanged]

end KnowledgeGraph

import Mathlib.Algebra.BigOperators.Intervals
import Mathlib.Data.List.ProdSigma
import KnowledgeGraph.Proofs.Graph.PlannedPost

/-!
# Keywords that occur together

Two keywords of a post occur together when they do not stand too far apart.  The pairs are found by
going through the keywords once (`pairsWithin`).  Here they are said by their places: all places of
two keywords in order, and of these the ones with the first place before the second and within the
window (`pairsWithin_eq`).

Nothing is left out and nothing comes twice, so the pairs can be counted place by place
(`length_pairsWithin`), and a window that reaches over all keywords is as good as none
(`pairsWithin_of_le`).
-/

namespace KnowledgeGraph

/-! ## Places -/

/-- The second place is behind the first one, and within the window if there is one. -/
def IsWithin (window : Option Nat) (i j : Nat) : Prop := i < j ∧ ∀ w ∈ window, j - i ≤ w

instance (window : Option Nat) (i j : Nat) : Decidable (IsWithin window i j) :=
  inferInstanceAs (Decidable (_ ∧ _))

variable {α : Type} {window : Option Nat}

/-- The elements that occur together with the first one are the next ones, as many as the window
has. -/
theorem pairsWithin_cons (window : Option Nat) (a : α) (as : List α) :
    pairsWithin window (a :: as) =
      (match window with
        | none => as
        | some w => as.take w).map (a, ·) ++ pairsWithin window as := rfl

/-- The elements behind a place that are within the window are the next ones. -/
theorem map_fst_filter_zipIdx (w k d : Nat) (as : List α) :
    ((as.zipIdx (k + d + 1)).filter fun q => IsWithin (some w) k q.2).map (·.1) =
      as.take (w - d) := by
  induction as generalizing d with
  | nil => simp
  | cons a as ih =>
    rw [List.zipIdx_cons, List.filter_cons]
    have later := ih (d + 1)
    rw [← Nat.add_assoc] at later
    by_cases room : d < w
    · have here : IsWithin (some w) k (k + d + 1) :=
        ⟨by omega, fun v eq => by cases eq; omega⟩
      have more : w - d = w - (d + 1) + 1 := by omega
      rw [if_pos (by simpa using here), List.map_cons, later, more, List.take_succ_cons]
    · have outside : ¬ IsWithin (some w) k (k + d + 1) := by
        rintro ⟨-, within⟩
        have := within w rfl
        omega
      have none : w - (d + 1) = w - d := by omega
      have zero : w - d = 0 := by omega
      rw [if_neg (by simpa using outside), later, none, zero, List.take_zero, List.take_zero]

/-- So are all of them, if there is no window. -/
theorem map_fst_filter_zipIdx_cons (window : Option Nat) (k : Nat) (a : α) (as : List α) :
    (((a, k) :: as.zipIdx (k + 1)).filter fun q => IsWithin window k q.2).map (·.1) =
      match window with
      | none => as
      | some w => as.take w := by
  have itself : ¬ IsWithin window k k := fun within => absurd within.1 (Nat.lt_irrefl k)
  rw [List.filter_cons, if_neg (by simpa using itself)]
  cases window with
  | none =>
    have all : ∀ q ∈ as.zipIdx (k + 1), IsWithin none k q.2 := by
      intro q mem
      have behind := List.le_snd_of_mem_zipIdx mem
      exact ⟨by omega, by simp⟩
    rw [List.filter_eq_self.2 (by simpa using all), List.zipIdx_map_fst]
  | some w => exact map_fst_filter_zipIdx w k 0 as

/-- The pairs by their places, which are counted from some place on. -/
theorem pairsWithin_eq_zipIdx (window : Option Nat) (k : Nat) (as : List α) :
    pairsWithin window as =
      ((as.zipIdx k ×ˢ as.zipIdx k).filter fun q => IsWithin window q.1.2 q.2.2).map
        fun q => (q.1.1, q.2.1) := by
  induction as generalizing k with
  | nil => rfl
  | cons a as ih =>
    -- The first element is behind no other one, so only its own row has pairs with it.
    have rows : ((as.zipIdx (k + 1) ×ˢ ((a, k) :: as.zipIdx (k + 1))).filter
        fun q => IsWithin window q.1.2 q.2.2) =
          (as.zipIdx (k + 1) ×ˢ as.zipIdx (k + 1)).filter
            fun q => IsWithin window q.1.2 q.2.2 := by
      simp only [SProd.sprod, List.product, List.filter_flatMap]
      refine List.flatMap_congr fun q mem => ?_
      have behind := List.le_snd_of_mem_zipIdx mem
      have before : ¬ IsWithin window q.2 k := fun within => absurd within.1 (by omega)
      rw [List.map_cons, List.filter_cons, if_neg (by simpa using before)]
    rw [List.zipIdx_cons, List.product_cons, List.filter_append, List.map_append, rows, ← ih,
      pairsWithin_cons, ← map_fst_filter_zipIdx_cons window k a as, List.filter_map, List.map_map,
      List.map_map]
    rfl

/-- The pairs are those of all pairs of places, in order, that have the second place behind the
first one and within the window. -/
theorem pairsWithin_eq (window : Option Nat) (as : List α) :
    pairsWithin window as =
      ((as.zipIdx ×ˢ as.zipIdx).filter fun q => IsWithin window q.1.2 q.2.2).map
        fun q => (q.1.1, q.2.1) :=
  pairsWithin_eq_zipIdx window 0 as

example : pairsWithin (some 2) ['a', 'b', 'c', 'd'] =
    [('a', 'b'), ('a', 'c'), ('b', 'c'), ('b', 'd'), ('c', 'd')] := by decide

/-! ## Counting -/

/-- From every place, pairs go to as many places as the window or the list has. -/
theorem length_pairsWithin (w : Nat) (as : List α) :
    (pairsWithin (some w) as).length =
      ∑ i ∈ Finset.range as.length, min w (as.length - 1 - i) := by
  induction as with
  | nil => rfl
  | cons a as ih =>
    rw [pairsWithin_cons, List.length_append, List.length_map, List.length_take, ih, List.length_cons,
      Finset.sum_range_succ', Nat.add_comm]
    congr 1
    refine Finset.sum_congr rfl fun i _ => ?_
    congr 1
    omega

/-- A window that reaches over all of a list is as good as none. -/
theorem pairsWithin_of_le {w : Nat} {as : List α} (wide : as.length ≤ w + 1) :
    pairsWithin (some w) as = pairsWithin none as := by
  induction as with
  | nil => rfl
  | cons a as ih =>
    rw [List.length_cons] at wide
    have all : as.take w = as := List.take_of_length_le (by omega)
    simp only [pairsWithin_cons, all, ih (by omega)]

theorem pairsWithin_map {β : Type} (f : α → β) (window : Option Nat) (as : List α) :
    pairsWithin window (as.map f) = (pairsWithin window as).map (Prod.map f f) := by
  induction as with
  | nil => rfl
  | cons a as ih =>
    rw [List.map_cons, pairsWithin_cons, pairsWithin_cons, ih, List.map_append, List.map_map]
    congr 1
    cases window with
    | none => exact List.map_map
    | some w =>
      simp only [← List.map_take, List.map_map]
      rfl

/-! ## Edges between keywords -/

/-- Whether keywords at two places of a post occur together.  A window of 0 is none. -/
def Settings.Joins (settings : Settings) (i j : Nat) : Prop :=
  i < j ∧ ∀ w ∈ settings.pairWindow, w ≠ 0 → j - i ≤ w

instance (settings : Settings) (i j : Nat) : Decidable (settings.Joins i j) :=
  inferInstanceAs (Decidable (_ ∧ _))

theorem Settings.joins_iff {settings : Settings} {i j : Nat} :
    settings.Joins i j ↔ IsWithin settings.window i j := by
  rw [Joins, IsWithin, window]
  cases settings.pairWindow <;> simp [Option.filter]

/-- The edge between two keywords of a post. -/
def Post.togetherEdge (settings : Settings) (id : String) (p : Post) (s t : Keyword.Slot) :
    Edge where
  kind := .coOccurs
  source := p.keywordRef settings s
  target := p.keywordRef settings t
  properties := .ofList [("weight", .ofFloat 1.0), ("window", windowValue settings.window),
    ("post_id", .string id)]

/-- The edges between the keywords that a post keeps, by the place of the first one and then by the
place of the second one. -/
def Post.togetherEdges (settings : Settings) (id : String) (p : Post) : List Edge :=
  let places := (Keyword.ofPost settings p).zipIdx
  ((places ×ˢ places).filter fun q => settings.Joins q.1.2 q.2.2).map
    fun q => p.togetherEdge settings id q.1.1 q.2.1

theorem Post.togetherEdges_eq (settings : Settings) (id : String) (p : Post) :
    p.togetherEdges settings id = (pairsWithin settings.window (Keyword.ofPost settings p)).map
      fun q => p.togetherEdge settings id q.1 q.2 := by
  rw [togetherEdges, pairsWithin_eq, List.map_map]
  simp only [Settings.joins_iff]
  rfl

/-- The pairs do not depend on the window, if it reaches over all keywords. -/
theorem Post.ends_togetherEdges (settings : Settings) (id : String) {p : Post} {w : Nat}
    (window : settings.window = none ∨ settings.window = some w)
    (wide : (Keyword.ofPost settings p).length ≤ w + 1) :
    (p.togetherEdges settings id).map (fun e => (e.source, e.target)) =
      (pairsWithin none (Keyword.ofPost settings p)).map fun q =>
        (p.keywordRef settings q.1, p.keywordRef settings q.2) := by
  have pairs : pairsWithin settings.window (Keyword.ofPost settings p) =
      pairsWithin none (Keyword.ofPost settings p) := by
    rcases window with none | some
    · rw [none]
    · rw [some, pairsWithin_of_le wide]
  rw [togetherEdges_eq, List.map_map, pairs]
  rfl

namespace PlannedPost

variable {settings : Settings} {p : Post} {plan : PlannedPost} {w : Weighting}

/-- The edges between keywords in a plan are those of its post. -/
theorem Plans.edgesFor_coOccurs (h : Plans settings p plan) (windows : w.window = settings.window) :
    plan.edgesFor w .coOccurs = p.togetherEdges settings plan.post.id := by
  rw [edgesFor, h.keywords, Post.keywordUses, pairsWithin_map, List.map_map, windows,
    Post.togetherEdges_eq]
  refine List.map_congr_left fun q _ => ?_
  simp only [Function.comp_apply, Prod.map, pairEdge, windows]
  rfl

end PlannedPost

/-- The edges between keywords that occur together are exact. -/
structure PairsExact (now : Instant) (settings : Settings) (posts : List Post) : Prop where
  /-- A post with a name gives one edge for each pair of places that occurs together. -/
  given : ∀ p ∈ posts, ∀ plan, PlannedPost.of? settings p = some plan →
    (plan.edges (.of now settings (plansOf settings posts))).filter (·.kind == .coOccurs) =
      p.togetherEdges settings plan.post.id
  /-- The graph has these edges, post by post, and no others. -/
  edges : (Graph.ofPosts now settings posts).edgesOf .coOccurs =
    (namedPosts posts).flatMap fun q => q.2.togetherEdges settings q.1
  /-- From each place, edges go to as many places as the window has, or as there are. -/
  length : ∀ (p : Post) (id : String), ∀ w ∈ settings.pairWindow, w ≠ 0 →
    (p.togetherEdges settings id).length =
      ∑ i ∈ Finset.range (Keyword.ofPost settings p).length,
        min w ((Keyword.ofPost settings p).length - 1 - i)
  /-- Without a window, they go to as many as there are. -/
  length_whole : ∀ (p : Post) (id : String), (∀ w ∈ settings.pairWindow, w = 0) →
    (p.togetherEdges settings id).length =
      ∑ i ∈ Finset.range (Keyword.ofPost settings p).length,
        ((Keyword.ofPost settings p).length - 1 - i)
  /-- A window that reaches over all keywords of a post joins the same ones as no window does. -/
  wide : ∀ (p : Post) (id : String) (w : Nat), (Keyword.ofPost settings p).length ≤ w + 1 →
    (p.togetherEdges { settings with pairWindow := some w } id).map (fun e => (e.source, e.target)) =
      (p.togetherEdges { settings with pairWindow := none } id).map fun e => (e.source, e.target)

/-- Keywords of a post occur together exactly if their places are within the window. -/
theorem Graph.pairsExact_ofPosts (now : Instant) (settings : Settings) (posts : List Post) :
    PairsExact now settings posts where
  given p hp plan planned := by
    rw [PlannedPost.filter_edges]
    exact (PlannedPost.plans_of_of? planned).edgesFor_coOccurs rfl
  edges := by
    rw [edgesOf_ofPosts, List.flatMap_def, List.flatMap_def]
    congr 1
    exact map_plansOf fun p _ plan plans => plans.edgesFor_coOccurs rfl
  length p id w given filled := by
    have window : settings.window = some w := by
      rw [Settings.window, Option.mem_def.1 given]
      simp [Option.filter, filled]
    rw [Post.togetherEdges_eq, List.length_map, window, length_pairsWithin]
  length_whole p id whole := by
    have window : settings.window = none := by
      rw [Settings.window]
      simpa [Option.filter_eq_none_iff] using whole
    rw [Post.togetherEdges_eq, List.length_map, window,
      ← pairsWithin_of_le (Nat.le_succ _), length_pairsWithin]
    refine Finset.sum_congr rfl fun i _ => ?_
    omega
  wide p id w reaches := by
    have window : Settings.window { settings with pairWindow := some w } = none ∨
        Settings.window { settings with pairWindow := some w } = some w := by
      by_cases zero : w = 0 <;> simp [Settings.window, Option.filter, zero]
    have joined := Post.ends_togetherEdges _ id window reaches
    have whole := Post.ends_togetherEdges { settings with pairWindow := none } id (.inl rfl) reaches
    exact joined.trans whole.symm

end KnowledgeGraph

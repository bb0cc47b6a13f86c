import Mathlib.Data.List.Induction
import KnowledgeGraph.Keyword.Statistics
import KnowledgeGraph.Proofs.KeyedMap

/-!
# Statistics count posts

Counting a post adds one to the total, and one to every keyword that the post has, however often
it has it (`find?_observe`).  The distinct keywords of a post may be gone through in any order
(`observeIn_eq_observe`).  So after any number of posts the total is their number
(`total_observeAll`), and the count of a keyword is the number of posts that have it
(`postCount_observeAll`).

These two numbers decide the rarity of a keyword.  It is the fixed 1 for a single post and for a
keyword of all posts.  Everywhere else it is made of a logarithm, which is that of a number above 1
(`countsPosts_observeAll`).
-/

namespace KnowledgeGraph.Keyword.Statistics

/-! ## One post -/

/-- A post is counted by going through its distinct keywords in a given order. -/
def observeIn (s : Statistics) (order : List String) : Statistics where
  total := s.total + 1
  postsWith := order.foldl (fun m k => m.upsert k fun n => n.getD 0 + 1) s.postsWith

/-- A list has the distinct keywords of a post in some order. -/
structure IsOrderOf (order keywords : List String) : Prop where
  /-- No keyword is repeated. -/
  nodup : order.Nodup
  /-- They are the keywords of the post. -/
  mem_iff : ∀ k, k ∈ order ↔ k ∈ keywords

theorem isOrderOf_distinct (keywords : List String) : IsOrderOf (distinct keywords) keywords :=
  ⟨nodup_distinct keywords, fun _ => mem_distinct⟩

theorem find?_observeIn (s : Statistics) {order keywords : List String}
    (h : IsOrderOf order keywords) (k : String) :
    (s.observeIn order).postsWith.find? k =
      if k ∈ keywords then some (s.postCount k + 1) else s.postsWith.find? k := by
  rw [observeIn, KeyedMap.find?_foldl_count, postCount]
  by_cases mem : k ∈ keywords
  · have inOrder : k ∈ order := (h.mem_iff k).2 mem
    have once : order.count k = 1 := List.count_eq_one_of_mem h.nodup inOrder
    rw [if_pos inOrder, if_pos mem, once]
  · rw [if_neg (mt (h.mem_iff k).1 mem), if_neg mem]

/-- The order in which the keywords of a post are gone through does not matter. -/
theorem observeIn_eq_observe (s : Statistics) {order keywords : List String}
    (h : IsOrderOf order keywords) : s.observeIn order = s.observe keywords := by
  have map : (s.observeIn order).postsWith = (s.observeIn (distinct keywords)).postsWith := by
    refine KeyedMap.ext fun k => ?_
    rw [find?_observeIn s h, find?_observeIn s (isOrderOf_distinct keywords)]
  exact congrArg (Statistics.mk (s.total + 1)) map

theorem total_observe (s : Statistics) (keywords : List String) :
    (s.observe keywords).total = s.total + 1 := rfl

theorem find?_observe (s : Statistics) (keywords : List String) (k : String) :
    (s.observe keywords).postsWith.find? k =
      if k ∈ keywords then some (s.postCount k + 1) else s.postsWith.find? k :=
  find?_observeIn s (isOrderOf_distinct keywords) k

theorem postCount_observe (s : Statistics) (keywords : List String) (k : String) :
    (s.observe keywords).postCount k = s.postCount k + if k ∈ keywords then 1 else 0 := by
  rw [postCount, find?_observe]
  split <;> rfl

/-! ## Any number of posts -/

/-- The statistics after posts with the given keywords, one after the other. -/
def observeAll (posts : List (List String)) : Statistics := posts.foldl observe {}

theorem observeAll_concat (posts : List (List String)) (keywords : List String) :
    observeAll (posts ++ [keywords]) = (observeAll posts).observe keywords := by
  rw [observeAll, List.foldl_append]
  rfl

theorem total_observeAll (posts : List (List String)) :
    (observeAll posts).total = posts.length := by
  induction posts using List.reverseRecOn with
  | nil => rfl
  | append_singleton posts keywords ih =>
    rw [observeAll_concat, total_observe, ih, List.length_append, List.length_singleton]

/-- The count of a keyword is the number of posts that have it. -/
theorem postCount_observeAll (posts : List (List String)) (k : String) :
    (observeAll posts).postCount k = posts.countP (k ∈ ·) := by
  induction posts using List.reverseRecOn with
  | nil => rfl
  | append_singleton posts keywords ih =>
    rw [observeAll_concat, postCount_observe, ih, List.countP_append, List.countP_singleton]
    simp only [decide_eq_true_eq]

/-- A keyword without a count is in no post. -/
theorem find?_observeAll (posts : List (List String)) (k : String) :
    (observeAll posts).postsWith.find? k =
      if posts.countP (k ∈ ·) = 0 then none else some (posts.countP (k ∈ ·)) := by
  induction posts using List.reverseRecOn with
  | nil => rfl
  | append_singleton posts keywords ih =>
    rw [observeAll_concat, find?_observe, postCount_observeAll, ih, List.countP_append,
      List.countP_singleton]
    by_cases mem : k ∈ keywords <;> simp [mem]

/-- Statistics that come of counting posts one after the other, each with its distinct keywords in
some order. -/
inductive ComesOf : List (List String) → Statistics → Prop
  /-- Nothing has been counted. -/
  | nothing : ComesOf [] {}
  /-- One more post is counted. -/
  | next {posts s keywords order} :
    ComesOf posts s → IsOrderOf order keywords →
    ComesOf (posts ++ [keywords]) (s.observeIn order)

theorem comesOf_observeAll (posts : List (List String)) : ComesOf posts (observeAll posts) := by
  induction posts using List.reverseRecOn with
  | nil => exact .nothing
  | append_singleton posts keywords ih =>
    rw [observeAll_concat]
    exact .next ih (isOrderOf_distinct keywords)

/-- The orders in which the keywords of all posts are gone through do not matter. -/
theorem ComesOf.eq_observeAll {posts : List (List String)} {s : Statistics}
    (h : ComesOf posts s) : s = observeAll posts := by
  induction h with
  | nothing => rfl
  | next _ order ih => rw [observeAll_concat, observeIn_eq_observe _ order, ih]

/-- Neither do the order of the posts and repeated keywords. -/
theorem observeAll_congr {posts others : List (List String)} (length : posts.length = others.length)
    (count : ∀ k : String, posts.countP (k ∈ ·) = others.countP (k ∈ ·)) :
    observeAll posts = observeAll others := by
  have total : (observeAll posts).total = (observeAll others).total := by
    rw [total_observeAll, total_observeAll, length]
  have map : (observeAll posts).postsWith = (observeAll others).postsWith := by
    refine KeyedMap.ext fun k => ?_
    rw [find?_observeAll, find?_observeAll, count]
  exact congrArg₂ Statistics.mk total map

/-! ## Rarity -/

/-- The order in which posts are counted does not matter. -/
theorem rarity_observeAll_perm {posts others : List (List String)} (h : posts.Perm others)
    (k : String) : (observeAll posts).rarity k = (observeAll others).rarity k := by
  rw [observeAll_congr h.length_eq fun _ => h.countP_eq _]

/-- The numbers whose quotient is made into the rarity of a keyword, unless the rarity is fixed. -/
def quotient? (s : Statistics) (keyword : String) : Option (Nat × Nat) :=
  let df := max (s.postCount keyword) 1
  if s.total ≤ df then none else some (s.total, df)

/-- The rarity that is made of a quotient, and the fixed one. -/
def rarityOfQuotient : Option (Nat × Nat) → Float
  | none => 1.0
  | some (total, df) => 1.0 + (Float.ofNat total / Float.ofNat df).log

theorem rarity_eq_rarityOfQuotient (s : Statistics) (keyword : String) :
    s.rarity keyword = rarityOfQuotient (s.quotient? keyword) := by
  rw [rarity, quotient?]
  split <;> rfl

theorem quotient?_eq_none_iff {s : Statistics} {keyword : String} :
    s.quotient? keyword = none ↔ s.total ≤ max (s.postCount keyword) 1 := by
  rw [quotient?]
  split
  · next few => exact iff_of_true rfl few
  · next many => exact iff_of_false (Option.some_ne_none _) many

/-! ## Counting posts -/

/-- Two lists have the same keywords, perhaps in another order and repeated otherwise. -/
def SameKeywords (keywords others : List String) : Prop := ∀ k, k ∈ keywords ↔ k ∈ others

theorem countP_eq_of_sameKeywords {posts others : List (List String)}
    (h : List.Forall₂ SameKeywords posts others) (k : String) :
    posts.countP (k ∈ ·) = others.countP (k ∈ ·) := by
  induction h with
  | nil => rfl
  | cons same _ ih => simp [List.countP_cons, ih, same k]

/-- The statistics count posts that have the given keywords. -/
structure CountsPosts (s : Statistics) (posts : List (List String)) : Prop where
  /-- The total is the number of posts. -/
  total : s.total = posts.length
  /-- The count of a keyword is the number of posts that have it. -/
  postCount : ∀ k : String, s.postCount k = posts.countP (k ∈ ·)
  /-- A keyword is in no more posts than there are. -/
  postCount_le : ∀ k, s.postCount k ≤ s.total
  /-- The order of posts does not matter, nor do the order and repetitions of the keywords. -/
  unordered : ∀ shuffled others, posts.Perm shuffled →
    List.Forall₂ SameKeywords shuffled others → observeAll others = s
  /-- The rarity is the fixed one or made of a quotient. -/
  rarity : ∀ k, s.rarity k = rarityOfQuotient (s.quotient? k)
  /-- A keyword that no post has counts as in one post. -/
  unseen : ∀ k, (∀ keywords ∈ posts, k ∉ keywords) →
    s.postCount k = 0 ∧ s.quotient? k = if s.total ≤ 1 then none else some (s.total, 1)
  /-- The rarity is fixed if there is at most one post, and if all posts have the keyword. -/
  fixed : ∀ k, s.quotient? k = none ↔ s.total ≤ 1 ∨ ∀ keywords ∈ posts, k ∈ keywords
  /-- A quotient is above 1. -/
  above : ∀ k total df, s.quotient? k = some (total, df) →
    total = s.total ∧ df = max (s.postCount k) 1 ∧ df < total ∧ 1 ≤ df

/-- Going through the keywords of each post in any order gives the same statistics, and they count
posts. -/
theorem countsPosts_observeAll (posts : List (List String)) :
    (∀ s, ComesOf posts s ↔ s = observeAll posts) ∧ (observeAll posts).CountsPosts posts := by
  have count := postCount_observeAll posts
  have total := total_observeAll posts
  have most (k : String) : posts.countP (k ∈ ·) ≤ posts.length := List.countP_le_length
  refine ⟨fun s => ⟨ComesOf.eq_observeAll, fun h => h ▸ comesOf_observeAll posts⟩, ?_⟩
  exact {
    total
    postCount := count
    postCount_le := fun k => by rw [count, total]; exact most k
    unordered := fun shuffled others perm same => by
      refine observeAll_congr (same.length_eq.symm.trans perm.length_eq.symm) fun k => ?_
      rw [← countP_eq_of_sameKeywords same, perm.countP_eq]
    rarity := rarity_eq_rarityOfQuotient _
    unseen := fun k absent => by
      have none : (observeAll posts).postCount k = 0 := by
        rw [count, List.countP_eq_zero]
        simpa using absent
      rw [quotient?, none]
      exact ⟨rfl, rfl⟩
    fixed := fun k => by
      rw [quotient?_eq_none_iff, count, total]
      have everywhere : posts.countP (k ∈ ·) = posts.length ↔ ∀ keywords ∈ posts, k ∈ keywords := by
        simp [List.countP_eq_length]
      rw [← everywhere]
      have := most k
      omega
    above := fun k n df h => by
      rw [quotient?] at h
      split at h
      · cases h
      · cases h
        exact ⟨rfl, rfl, by omega, by omega⟩ }

end KnowledgeGraph.Keyword.Statistics

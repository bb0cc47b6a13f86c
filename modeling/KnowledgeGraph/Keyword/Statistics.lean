import KnowledgeGraph.Distinct
import KnowledgeGraph.KeyedMap

/-!
# Statistics of keywords

How many posts there are, and in how many of them each keyword occurs.  A keyword that occurs
in every post tells nothing about any of them, and its rarity is exactly 1.  Otherwise the
rarity grows with the logarithm of the share of the posts that have it.
-/

namespace KnowledgeGraph.Keyword

/-- Counts of posts. -/
structure Statistics where
  /-- The number of posts. -/
  total : Nat := 0
  /-- For each keyword, the number of posts that have it. -/
  postsWith : KeyedMap Nat := .empty
deriving Inhabited

namespace Statistics

/-- Counts a post with the given keywords.  A keyword counts once per post. -/
def observe (s : Statistics) (keywords : List String) : Statistics where
  total := s.total + 1
  postsWith := (distinct keywords).foldl
    (fun m k => m.upsert k fun n => n.getD 0 + 1) s.postsWith

/-- The number of posts that have a keyword. -/
def postCount (s : Statistics) (keyword : String) : Nat :=
  (s.postsWith.find? keyword).getD 0

/-- The rarity of a keyword.  One that occurs nowhere counts as occurring once. -/
def rarity (s : Statistics) (keyword : String) : Float :=
  let df := max (s.postCount keyword) 1
  if s.total ≤ df then 1.0
  else 1.0 + (Float.ofNat s.total / Float.ofNat df).log

end Statistics

/-- The share that a keyword's occurrences have in the number of a post's keywords. -/
def share (occurrences keywords : Nat) : Float :=
  if keywords = 0 then 0.0 else Float.ofNat occurrences / Float.ofNat keywords

/-- The share times the rarity. -/
def Statistics.weight (s : Statistics) (keyword : String) (occurrences keywords : Nat) : Float :=
  share occurrences keywords * s.rarity keyword

end KnowledgeGraph.Keyword

/-!
# Tables of code points

Two shapes of table, both in ascending order: ranges of code points, for a property that a
character has or lacks, and rows that give a code point a value.  A search goes through a
table in order and stops at the first row that lies above the code point, so a character
below every row costs one comparison.

`CodeRanges.contains_iff` and `CodeMap.mem_of_find?` say what a search finds without its
order: the former for tables whose ranges ascend, the latter for every table.
-/

namespace KnowledgeGraph

/-- Ranges of code points, ends included. -/
abbrev CodeRanges := List (Nat × Nat)

namespace CodeRanges

/-- Whether a code point lies in one of the ranges, read in ascending order. -/
def contains : CodeRanges → Nat → Bool
  | [], _ => false
  | (first, last) :: rest, c =>
      if c < first then false else if c ≤ last then true else contains rest c

/-- Each range begins and ends before a later one begins. -/
def Ascending (ranges : CodeRanges) : Prop :=
  ranges.Pairwise fun r s => r.1 < s.1 ∧ r.2 < s.1

instance (ranges : CodeRanges) : Decidable ranges.Ascending :=
  inferInstanceAs (Decidable (ranges.Pairwise _))

/-- A code point that the search finds lies in a range of the table. -/
theorem exists_of_contains {ranges : CodeRanges} {c : Nat} (h : ranges.contains c = true) :
    ∃ r ∈ ranges, r.1 ≤ c ∧ c ≤ r.2 := by
  induction ranges with
  | nil => simp [contains] at h
  | cons r rest ih =>
    obtain ⟨first, last⟩ := r
    unfold contains at h
    split at h
    · simp at h
    · split at h
      · exact ⟨(first, last), by simp, by omega, by omega⟩
      · obtain ⟨s, hs, hc⟩ := ih h
        exact ⟨s, List.mem_cons_of_mem _ hs, hc⟩

/-- In a table whose ranges ascend, the search finds every code point of every range. -/
theorem contains_iff {ranges : CodeRanges} (asc : ranges.Ascending) {c : Nat} :
    ranges.contains c = true ↔ ∃ r ∈ ranges, r.1 ≤ c ∧ c ≤ r.2 := by
  refine ⟨exists_of_contains, ?_⟩
  induction ranges with
  | nil => simp
  | cons r rest ih =>
    obtain ⟨first, last⟩ := r
    rintro ⟨s, hs, hc⟩
    have below := (List.pairwise_cons.1 asc).1
    unfold contains
    rcases List.mem_cons.1 hs with rfl | hs
    · simp_all [Nat.not_lt.2 hc.1]
    · obtain ⟨h₁, h₂⟩ := below s hs
      simp only at h₁ h₂
      rw [if_neg (by omega), if_neg (by omega)]
      exact ih (List.pairwise_cons.1 asc).2 ⟨s, hs, hc⟩

end CodeRanges

/-- Rows that give a code point a value. -/
abbrev CodeMap (α : Type) := List (Nat × α)

namespace CodeMap

/-- The value of a code point, read in ascending order. -/
def find? {α : Type} : CodeMap α → Nat → Option α
  | [], _ => none
  | (code, value) :: rest, c =>
      if c < code then none else if c = code then some value else find? rest c

/-- A value that the search finds stands in a row of the table. -/
theorem mem_of_find? {α : Type} {rows : CodeMap α} {c : Nat} {a : α}
    (h : rows.find? c = some a) : (c, a) ∈ rows := by
  induction rows with
  | nil => simp [find?] at h
  | cons r rest ih =>
    obtain ⟨code, value⟩ := r
    unfold find? at h
    split at h
    · simp at h
    · split at h
      · simp_all
      · exact List.mem_cons_of_mem _ (ih h)

end CodeMap

end KnowledgeGraph

import KnowledgeGraph.Text.Casing
import KnowledgeGraph.Text.Composed

/-!
# Search trees for tables of code points

A search that goes through a table row by row is slow to evaluate, and a fact about all rows of one
table that looks them up in another needs thousands of them.  A search tree of the same rows answers
in as many steps as it is deep, and it answers alike (`SearchTree.find?_ofRows`).  So such a fact is
stated with the search of the table, and the tree takes its place when the fact is evaluated
(`Text.decomposition_tree` and the equations after it).

All tables are read as rows of one shape: the first and the last code point of a range, and a value.
`CodeRows.scan` is the search through such rows, which those of the tables are cases of.
-/

namespace KnowledgeGraph

variable {α : Type}

/-- Ranges of code points with a value each: first code point, last code point, value. -/
abbrev CodeRows (α : Type) := List (Nat × Nat × α)

namespace CodeRows

/-- The value of a code point, read in ascending order. -/
def scan : CodeRows α → Nat → Option α
  | [], _ => none
  | (first, last, value) :: rest, c =>
      if c < first then none else if c ≤ last then some value else scan rest c

/-- A search that finds something finds a row of the code point. -/
theorem exists_of_scan {rows : CodeRows α} {c : Nat} {value : α}
    (h : rows.scan c = some value) : ∃ row ∈ rows, row.1 ≤ c ∧ c ≤ row.2.1 := by
  induction rows with
  | nil => cases h
  | cons row rest ih =>
    rw [scan] at h
    split at h
    · cases h
    · next start =>
      split at h
      · next stop => exact ⟨row, List.mem_cons_self, by omega, stop⟩
      · obtain ⟨row', mem, within⟩ := ih h
        exact ⟨row', List.mem_cons_of_mem _ mem, within⟩

/-- Each range begins and ends before the next one begins.  This reads only neighbours, so that it
is evaluated in one pass. -/
def ascends : CodeRows α → Bool
  | (first, last, _) :: (first', last', value) :: rest =>
      first.blt first' && last.blt first' && ascends ((first', last', value) :: rest)
  | _ => true

/-- Whether a range begins and ends before another one begins. -/
def Below (r s : Nat × Nat × α) : Prop := r.1 < s.1 ∧ r.2.1 < s.1

theorem pairwise_of_ascends : ∀ {rows : CodeRows α}, rows.ascends = true → rows.Pairwise Below
  | [], _ => .nil
  | [_], _ => List.pairwise_singleton _ _
  | r :: s :: rest, h => by
      simp only [ascends, Bool.and_eq_true, Nat.blt_eq] at h
      have later := pairwise_of_ascends h.2
      refine List.pairwise_cons.2 ⟨fun t mem => ?_, later⟩
      rcases List.mem_cons.1 mem with rfl | mem
      · exact h.1
      · have above := (List.pairwise_cons.1 later).1 t mem
        exact ⟨Nat.lt_trans h.1.1 above.1, Nat.lt_trans h.1.2 above.1⟩

/-- The search goes on behind rows that lie below a code point, and stops at one above it. -/
theorem scan_append {xs : CodeRows α} {first last : Nat} {value : α}
    (below : ∀ r ∈ xs, Below r (first, last, value)) (ys : CodeRows α) (c : Nat) :
    scan (xs ++ (first, last, value) :: ys) c =
      if c < first then scan xs c else if c ≤ last then some value else scan ys c := by
  induction xs with
  | nil => rfl
  | cons r xs ih =>
    obtain ⟨first', last', value'⟩ := r
    obtain ⟨here, others⟩ := List.forall_mem_cons.1 below
    have starts : first' < first := here.1
    have ends : last' < first := here.2
    rw [List.cons_append, scan, scan, ih others]
    by_cases early : c < first
    · simp only [if_pos early]
    · have behind : ¬ c < first' ∧ ¬ c ≤ last' := by omega
      rw [if_neg behind.1, if_neg behind.2, if_neg early, if_neg early]

end CodeRows

/-- A search tree of ranges of code points with values. -/
inductive SearchTree (α : Type) where
  /-- The empty tree. -/
  | leaf
  /-- A range and its value between two trees. -/
  | node (left : SearchTree α) (first last : Nat) (value : α) (right : SearchTree α)

namespace SearchTree

/-- The rows of a tree from left to right. -/
def rows : SearchTree α → CodeRows α
  | leaf => []
  | node left first last value right => left.rows ++ (first, last, value) :: right.rows

/-- The value of a code point. -/
def find? : SearchTree α → Nat → Option α
  | leaf, _ => none
  | node left first last value right, c =>
      bif c.blt first then left.find? c
      else bif c.ble last then some value else right.find? c

/-- A tree of the first rows, at most `depth` deep and full, and the rows that are left. -/
def ofRows : Nat → CodeRows α → SearchTree α × CodeRows α
  | 0, rows => (leaf, rows)
  | depth + 1, rows =>
      match ofRows depth rows with
      | (left, []) => (left, [])
      | (left, (first, last, value) :: rest) =>
          (node left first last value (ofRows depth rest).1, (ofRows depth rest).2)

/-- A tree finds what a search through its rows does. -/
theorem find?_eq_scan {t : SearchTree α} (h : t.rows.Pairwise CodeRows.Below) (c : Nat) :
    t.find? c = t.rows.scan c := by
  induction t with
  | leaf => rfl
  | node left first last value right ihl ihr =>
    obtain ⟨pairsLeft, pairsRight, below⟩ := List.pairwise_append.1 h
    have before : ∀ r ∈ left.rows, CodeRows.Below r (first, last, value) :=
      fun r mem => below r mem _ List.mem_cons_self
    rw [rows, CodeRows.scan_append before, find?, ihl pairsLeft,
      ihr (List.pairwise_cons.1 pairsRight).2]
    simp only [cond_eq_ite, Nat.blt_eq, Nat.ble_eq]

theorem rows_ofRows (depth : Nat) (rows : CodeRows α) :
    (ofRows depth rows).1.rows ++ (ofRows depth rows).2 = rows := by
  induction depth generalizing rows with
  | zero => rfl
  | succ depth ih =>
    have front := ih rows
    rw [ofRows]
    split
    · next left eq => rw [← front, eq]
    · next left first last value rest eq =>
      rw [SearchTree.rows, List.append_assoc, List.cons_append, ih rest, ← front, eq]

/-- Whether a table is sorted, and a tree of a depth holds all of it. -/
def holds (depth : Nat) (rows : CodeRows α) : Bool :=
  rows.ascends && (ofRows depth rows).2.isEmpty

/-- A tree that holds a table finds what a search through the table does. -/
theorem find?_ofRows {depth : Nat} {rows : CodeRows α} (h : holds depth rows = true) (c : Nat) :
    (ofRows depth rows).1.find? c = rows.scan c := by
  obtain ⟨asc, all⟩ := Bool.and_eq_true_iff.1 h
  have same : (ofRows depth rows).1.rows = rows := by
    have front := rows_ofRows depth rows
    rwa [List.isEmpty_iff.1 all, List.append_nil] at front
  have pairs := CodeRows.pairwise_of_ascends asc
  rw [← same] at pairs
  rw [find?_eq_scan pairs, same]

end SearchTree

/-! ## The shapes of tables -/

/-- The rows of a table of values. -/
def CodeMap.rows (entries : CodeMap α) : CodeRows α := entries.map fun e => (e.1, e.1, e.2)

/-- The rows of a table of ranges. -/
def CodeRanges.rows (ranges : CodeRanges) : CodeRows Unit := ranges.map fun r => (r.1, r.2, ())

theorem CodeMap.scan_rows (entries : CodeMap α) (c : Nat) :
    entries.rows.scan c = entries.find? c := by
  induction entries with
  | nil => rfl
  | cons e rest ih =>
    have split : rows (e :: rest) = (e.1, e.1, e.2) :: rows rest := rfl
    rw [split, CodeRows.scan, ih, find?]
    by_cases early : c < e.1
    · simp only [if_pos early]
    · have same : c ≤ e.1 ↔ c = e.1 := by omega
      simp only [if_neg early, same]

theorem CodeRanges.isSome_scan_rows (ranges : CodeRanges) (c : Nat) :
    (ranges.rows.scan c).isSome = ranges.contains c := by
  induction ranges with
  | nil => rfl
  | cons r rest ih =>
    have split : rows (r :: rest) = (r.1, r.2, ()) :: rows rest := rfl
    rw [split, CodeRows.scan, contains, ← ih]
    split
    · rfl
    · split <;> rfl

theorem Character.getD_scan (rows : CodeRows Nat) (c : Nat) :
    (rows.scan c).getD 0 = combiningClassIn rows c := by
  induction rows with
  | nil => rfl
  | cons r rest ih =>
    rw [CodeRows.scan, combiningClassIn, ← ih]
    split
    · rfl
    · split <;> rfl

/-! ## The tables as trees -/

namespace Text

open Character

/-- The decompositions as a tree. -/
def decompositionTree : SearchTree (List Nat) := (SearchTree.ofRows 12 decompositionRows.rows).1

/-- The lower-case mappings as a tree. -/
def lowerCaseTree : SearchTree (List Nat) := (SearchTree.ofRows 11 lowerCaseRows.rows).1

/-- The cased characters as a tree. -/
def casedTree : SearchTree Unit := (SearchTree.ofRows 8 casedRanges.rows).1

/-- The case-ignorable characters as a tree. -/
def caseIgnorableTree : SearchTree Unit := (SearchTree.ofRows 9 caseIgnorableRanges.rows).1

/-- The trees hold their tables. -/
theorem trees_hold : SearchTree.holds 12 decompositionRows.rows = true ∧
    SearchTree.holds 11 lowerCaseRows.rows = true ∧ SearchTree.holds 8 casedRanges.rows = true ∧
    SearchTree.holds 9 caseIgnorableRanges.rows = true := by
  decide +kernel

theorem find?_decompositionTree (n : Nat) :
    decompositionRows.find? n = decompositionTree.find? n := by
  rw [← CodeMap.scan_rows, decompositionTree, SearchTree.find?_ofRows trees_hold.1]

theorem find?_lowerCaseTree (n : Nat) : lowerCaseRows.find? n = lowerCaseTree.find? n := by
  rw [← CodeMap.scan_rows, lowerCaseTree, SearchTree.find?_ofRows trees_hold.2.1]

/-- Decomposing, with the table as a tree. -/
theorem decomposition_tree : decomposition = fun c =>
    if isHangulSyllable c.toNat then (hangulLetters c.toNat).map Char.ofNat
    else match decompositionTree.find? c.toNat with
      | some codes => codes.map Char.ofNat
      | none => [c] := by
  funext c
  rw [← find?_decompositionTree]
  rfl

/-- Lowering a character, with the table as a tree. -/
theorem lowerChar_tree : lowerChar = fun c =>
    match lowerCaseTree.find? c.toNat with
    | some codes => codes.map Char.ofNat
    | none => [c] := by
  funext c
  rw [← find?_lowerCaseTree]
  rfl

theorem isCased_tree : isCased = fun c => (casedTree.find? c.toNat).isSome := by
  funext c
  rw [isCased, ← CodeRanges.isSome_scan_rows, casedTree,
    SearchTree.find?_ofRows trees_hold.2.2.1]

theorem isCaseIgnorable_tree :
    isCaseIgnorable = fun c => (caseIgnorableTree.find? c.toNat).isSome := by
  funext c
  rw [isCaseIgnorable, ← CodeRanges.isSome_scan_rows, caseIgnorableTree,
    SearchTree.find?_ofRows trees_hold.2.2.2]

end Text

end KnowledgeGraph

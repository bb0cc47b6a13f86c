import Mathlib.Data.List.Basic
import KnowledgeGraph.Character.Blank
import KnowledgeGraph.Proofs.Character.SearchTree

/-!
# What the tables say of letters and marks

Composing, lowering and the context of a final `Σ` are tables, and the laws of texts rest on how the
tables fit together.  Each of these facts is one evaluation over the rows of a table, in a section
of its own, and then a statement about every character.

* What a decomposition consists of does not decompose further, and two characters that compose
  decompose together as their composite does (`composes_of_composite?`).
* Lowering what a character consists of amounts to lowering the character, up to decomposing
  (`flatMap_lowerChar_decomposition`), and lower case stays as it is (`isLower_of_mem_lowerChar`).
* A character is read in the context of `Σ` as what it consists of, and marks are no cased letters
  (`isMark_of_combiningClass`).

Hangul syllables are in none of the tables and have arithmetic in their place.
-/

namespace KnowledgeGraph

/-- Whether a character is neither blank nor invisible. -/
def Character.isShown (c : Char) : Bool := !isBlank c && !isInvisible c

theorem Character.not_isBlank_of_isShown {c : Char} (h : isShown c = true) :
    isBlank c = false := by
  simp only [isShown, Bool.and_eq_true, Bool.not_eq_true'] at h
  exact h.1

theorem Character.not_isInvisible_of_isShown {c : Char} (h : isShown c = true) :
    isInvisible c = false := by
  simp only [isShown, Bool.and_eq_true, Bool.not_eq_true'] at h
  exact h.2

theorem Character.not_isShown_of_isBlank {c : Char} (h : isBlank c = true) :
    isShown c = false := by
  rw [isShown, h, Bool.not_true, Bool.false_and]

theorem Character.not_isShown_of_isInvisible {c : Char} (h : isInvisible c = true) :
    isShown c = false := by
  rw [isShown, h, Bool.not_true, Bool.and_false]

namespace Text

open Character

/-- Whether lowering has no row for a character, and leaves it as it is. -/
def isLower (c : Char) : Bool := (lowerCaseRows.find? c.toNat).isNone

theorem isLower_tree : isLower = fun c => (lowerCaseTree.find? c.toNat).isNone := by
  funext c
  rw [← find?_lowerCaseTree]
  rfl

/-! ## The rows of the tables -/

/-- What the tables say of a character and the code points of the parts that it decomposes into. -/
@[mk_iff]
structure Decomposes (c : Char) (codes : List Nat) : Prop where
  /-- There are parts. -/
  filled : codes ≠ []
  /-- They do not decompose, and none of them is `Σ`. -/
  alone : ∀ n ∈ codes, decomposition (Char.ofNat n) = [Char.ofNat n] ∧ Char.ofNat n ≠ 'Σ'
  /-- They are shown, or there is one of them, which is blank or invisible as the character is. -/
  shown : isShown c = true ∧ (∀ n ∈ codes, isShown (Char.ofNat n) = true) ∨
    codes.length = 1 ∧ ∀ n ∈ codes, isBlank (Char.ofNat n) = isBlank c ∧
      isInvisible (Char.ofNat n) = isInvisible c
  /-- If lowering has no row for the character, it has none for its parts.  Elsewhere both ways from
  the character to lower case lead to the same parts. -/
  lower : isLower c = true ∧ (∀ n ∈ codes, isLower (Char.ofNat n) = true) ∨ isLower c = false ∧
    (lowerChar c).flatMap decomposition =
      ((codes.map Char.ofNat).flatMap lowerChar).flatMap decomposition
  /-- The character is ignored in casing exactly if all of its parts are. -/
  ignorable : (codes.map Char.ofNat).all isCaseIgnorable = isCaseIgnorable c
  /-- The parts that are not ignored are cased as the character is. -/
  cased : ∀ n ∈ codes, isCaseIgnorable (Char.ofNat n) = true ∨ isCased (Char.ofNat n) = isCased c

theorem decomposes : ∀ row ∈ decompositionRows, Decomposes (Char.ofNat row.1) row.2 := by
  simp only [decomposes_iff]
  rw [decomposition_tree, lowerChar_tree, isLower_tree, isCased_tree, isCaseIgnorable_tree]
  decide +kernel

theorem decomposes_of_find? {c : Char} {codes : List Nat}
    (row : decompositionRows.find? c.toNat = some codes) : Decomposes c codes := by
  have fits := decomposes _ (CodeMap.mem_of_find? row)
  rwa [Char.ofNat_toNat] at fits

/-- What the tables say of two characters and the one that they compose to. -/
@[mk_iff]
structure Composes (a b c : Char) : Prop where
  /-- All of them are shown. -/
  shown : isShown a = true ∧ isShown b = true ∧ isShown c = true
  /-- The composite decomposes as the first one does, with the second one behind. -/
  parts : decomposition c = decomposition a ++ [b]
  /-- It is in lower case if the first one is. -/
  lower : isLower a = true → isLower c = true

theorem composes : ∀ row ∈ compositionRows, ∀ pair ∈ row.2,
    Composes (Char.ofNat pair.1) (Char.ofNat row.1) (Char.ofNat pair.2) := by
  simp only [composes_iff]
  rw [decomposition_tree, isLower_tree]
  decide +kernel

/-- What the tables say of a character and the code points of its lower case. -/
@[mk_iff]
structure Lowers (c : Char) (codes : List Nat) : Prop where
  /-- The character is shown. -/
  shown : isShown c = true
  /-- There is a lower case. -/
  filled : codes ≠ []
  /-- It is shown, and has no other lower case. -/
  stays : ∀ n ∈ codes, isLower (Char.ofNat n) = true ∧ isShown (Char.ofNat n) = true

theorem lowers : ∀ row ∈ lowerCaseRows, Lowers (Char.ofNat row.1) row.2 := by
  simp only [lowers_iff]
  rw [isLower_tree]
  decide +kernel

theorem lowers_of_find? {c : Char} {codes : List Nat}
    (row : lowerCaseRows.find? c.toNat = some codes) : Lowers c codes := by
  have fits := lowers _ (CodeMap.mem_of_find? row)
  rwa [Char.ofNat_toNat] at fits

/-- What the tables say of a mark. -/
@[mk_iff]
structure IsMark (c : Char) : Prop where
  /-- A mark is shown. -/
  shown : isShown c = true
  /-- It has no lower case. -/
  lower : isLower c = true
  /-- If it is not ignored in casing, it is not cased. -/
  uncased : isCaseIgnorable c = true ∨ isCased c = false

theorem isMark_of_mem : ∀ row ∈ combiningClassRows,
    ∀ n ∈ List.range' row.1 (row.2.1 + 1 - row.1), IsMark (Char.ofNat n) := by
  simp only [isMark_iff]
  rw [isLower_tree, isCased_tree, isCaseIgnorable_tree]
  decide +kernel

/-! ## Hangul -/

theorem toNat_ofNat_of_lt {n : Nat} (h : n < 0xD800) : (Char.ofNat n).toNat = n := by
  have valid : n.isValidChar := .inl h
  rw [Char.ofNat, dif_pos valid]
  rfl

/-- The code points of the letters of syllables and of the syllables. -/
def IsHangul (n : Nat) : Prop := 0x1100 ≤ n ∧ n ≤ 0x11C2 ∨ 0xAC00 ≤ n ∧ n ≤ 0xD7A3

/-- Letters and syllables are shown. -/
theorem isShown_of_isHangul {c : Char} (h : IsHangul c.toNat) : isShown c = true := by
  simp only [IsHangul] at h
  simp only [isShown, isBlank, isInvisible, Bool.and_eq_true, Bool.not_eq_true',
    Bool.or_eq_false_iff, Bool.and_eq_false_iff, beq_eq_false_iff_ne, decide_eq_false_iff_not]
  omega

theorem isShown_ofNat_of_isHangul {n : Nat} (h : IsHangul n) : isShown (Char.ofNat n) = true := by
  refine isShown_of_isHangul ?_
  rwa [toNat_ofNat_of_lt]
  rcases h with h | h <;> omega

theorem isHangul_of_isHangulSyllable {n : Nat} (h : isHangulSyllable n = true) :
    IsHangul n := by
  simp only [isHangulSyllable, Bool.and_eq_true, decide_eq_true_eq] at h
  exact .inr h

/-- A syllable and the letters that it consists of. -/
theorem isHangul_of_hangulComposite? {a b n : Nat} (h : hangulComposite? a b = some n) :
    IsHangul a ∧ IsHangul b ∧ IsHangul n := by
  rw [hangulComposite?] at h
  split at h
  · obtain rfl := Option.some.inj h
    refine ⟨.inl ?_, .inl ?_, .inr ?_⟩ <;> omega
  · split at h
    · next letters =>
      obtain ⟨syllable, unfinished, letter⟩ := letters
      have bounds := isHangul_of_isHangulSyllable syllable
      simp only [isHangulSyllable, Bool.and_eq_true, decide_eq_true_eq] at syllable
      obtain rfl := Option.some.inj h
      refine ⟨bounds, .inl ?_, .inr ?_⟩ <;> omega
    · cases h

/-- Whether a range of code points has none of Hangul letters and syllables. -/
def avoidsHangul (first last : Nat) : Bool :=
  last.blt 0x1100 || (Nat.blt 0x11C2 first && last.blt 0xAC00) || Nat.blt 0xD7A3 first

/-- No table has a row for Hangul. -/
theorem rows_avoidsHangul : (∀ row ∈ decompositionRows, avoidsHangul row.1 row.1 = true) ∧
    (∀ row ∈ lowerCaseRows, avoidsHangul row.1 row.1 = true) ∧
    (∀ r ∈ casedRanges, avoidsHangul r.1 r.2 = true) ∧
    ∀ r ∈ caseIgnorableRanges, avoidsHangul r.1 r.2 = true := by
  decide +kernel

theorem not_isHangul_of_avoidsHangul {first last n : Nat} (h : avoidsHangul first last = true)
    (within : first ≤ n ∧ n ≤ last) : ¬ IsHangul n := by
  simp only [avoidsHangul, Bool.or_eq_true, Bool.and_eq_true, Nat.blt_eq] at h
  rw [IsHangul]
  omega

theorem find?_of_isHangul {α : Type} {rows : CodeMap α} {n : Nat} (hn : IsHangul n)
    (avoid : ∀ row ∈ rows, avoidsHangul row.1 row.1 = true) : rows.find? n = none := by
  cases found : rows.find? n with
  | none => rfl
  | some value =>
    have row := avoid _ (CodeMap.mem_of_find? found)
    exact absurd hn (not_isHangul_of_avoidsHangul row ⟨Nat.le_refl _, Nat.le_refl _⟩)

theorem contains_of_isHangul {ranges : CodeRanges} {n : Nat} (hn : IsHangul n)
    (avoid : ∀ r ∈ ranges, avoidsHangul r.1 r.2 = true) : ranges.contains n = false := by
  cases found : ranges.contains n with
  | false => rfl
  | true =>
    obtain ⟨r, mem, within⟩ := CodeRanges.exists_of_contains found
    exact absurd hn (not_isHangul_of_avoidsHangul (avoid r mem) within)

/-- Hangul has no case. -/
theorem casing_of_isHangul {c : Char} (h : IsHangul c.toNat) :
    isLower c = true ∧ isCased c = false ∧ isCaseIgnorable c = false := by
  have ⟨_, lower, cased, ignorable⟩ := rows_avoidsHangul
  refine ⟨?_, contains_of_isHangul h cased, contains_of_isHangul h ignorable⟩
  rw [isLower, find?_of_isHangul h lower]
  rfl

/-- What a syllable consists of are letters. -/
theorem mem_hangulLetters {n m : Nat} (h : isHangulSyllable n = true) (mem : m ∈ hangulLetters n) :
    0x1100 ≤ m ∧ m ≤ 0x11C2 := by
  simp only [isHangulSyllable, Bool.and_eq_true, decide_eq_true_eq] at h
  rw [hangulLetters] at mem
  split at mem
  · simp only [List.mem_cons, List.not_mem_nil, or_false] at mem
    omega
  · simp only [List.mem_append, List.mem_cons, List.not_mem_nil, or_false] at mem
    omega

/-- A letter of syllables does not decompose. -/
theorem decomposition_letter {n : Nat} (h : 0x1100 ≤ n ∧ n ≤ 0x11C2) :
    decomposition (Char.ofNat n) = [Char.ofNat n] := by
  have code : (Char.ofNat n).toNat = n := toNat_ofNat_of_lt (by omega)
  have letter : isHangulSyllable n = false := by
    simp only [isHangulSyllable, Bool.and_eq_false_iff, decide_eq_false_iff_not]
    omega
  rw [decomposition, code, letter, find?_of_isHangul (.inl h) rows_avoidsHangul.1]
  rfl

/-- A syllable decomposes into its letters. -/
theorem decomposition_syllable {n : Nat} (h : isHangulSyllable n = true) :
    decomposition (Char.ofNat n) = (hangulLetters n).map Char.ofNat := by
  have bounds := h
  simp only [isHangulSyllable, Bool.and_eq_true, decide_eq_true_eq] at bounds
  rw [decomposition, toNat_ofNat_of_lt (by omega), if_pos h]

/-- The letters of a composite syllable are those of its parts. -/
theorem hangulLetters_composite {m n k : Nat} (h : hangulComposite? m n = some k) :
    isHangulSyllable k = true ∧ 0x1100 ≤ n ∧ n ≤ 0x11C2 ∧
      (0x1100 ≤ m ∧ m ≤ 0x11C2 ∧ hangulLetters k = [m, n] ∨
        isHangulSyllable m = true ∧ hangulLetters k = hangulLetters m ++ [n]) := by
  simp only [hangulComposite?, isHangulSyllable, Bool.and_eq_true, decide_eq_true_eq] at h ⊢
  split at h
  · next bounds =>
    have whole := Option.some.inj h
    have index : k - 0xAC00 = ((m - 0x1100) * 21 + (n - 0x1161)) * 28 := by omega
    refine ⟨by omega, by omega, by omega, .inl ⟨by omega, by omega, ?_⟩⟩
    have first : 0x1100 + (k - 0xAC00) / 588 = m := by omega
    have second : 0x1161 + (k - 0xAC00) % 588 / 28 = n := by omega
    rw [hangulLetters, first, second, if_pos (by omega)]
  · split at h
    · next bounds =>
      have whole := Option.some.inj h
      have first : (k - 0xAC00) / 588 = (m - 0xAC00) / 588 := by omega
      have second : (k - 0xAC00) % 588 / 28 = (m - 0xAC00) % 588 / 28 := by omega
      have third : 0x11A7 + (k - 0xAC00) % 28 = n := by omega
      refine ⟨by omega, by omega, by omega, .inr ⟨by omega, ?_⟩⟩
      rw [hangulLetters, hangulLetters, first, second, third, if_neg (by omega), if_pos (by omega)]
    · cases h

/-! ## Decomposing a character -/

/-- The parts that a character decomposes into: itself, the letters of a syllable, or what its row
of the table says. -/
inductive IsPart : Char → Char → Prop where
  /-- A character that does not decompose. -/
  | itself {c : Char} (alone : decomposition c = [c]) : IsPart c c
  /-- A letter of a syllable. -/
  | letter {c : Char} {n : Nat} (syllable : isHangulSyllable c.toNat = true)
      (letter : 0x1100 ≤ n ∧ n ≤ 0x11C2) : IsPart c (Char.ofNat n)
  /-- A part that the table gives. -/
  | row {code n : Nat} {codes : List Nat} (row : (code, codes) ∈ decompositionRows)
      (mem : n ∈ codes) : IsPart (Char.ofNat code) (Char.ofNat n)

variable {a b c d : Char}

theorem mem_of_lookup_eq_some {α β : Type} [BEq α] [LawfulBEq α] {entries : List (α × β)} {a : α}
    {b : β} (h : entries.lookup a = some b) : (a, b) ∈ entries := by
  obtain ⟨before, after, rfl, -⟩ := List.lookup_eq_some_iff.1 h
  simp

theorem isPart_of_mem (h : d ∈ decomposition c) : IsPart c d := by
  cases syllable : isHangulSyllable c.toNat with
  | true =>
    rw [decomposition, if_pos syllable] at h
    obtain ⟨n, mem, rfl⟩ := List.mem_map.1 h
    exact .letter syllable (mem_hangulLetters syllable mem)
  | false =>
    cases row : decompositionRows.find? c.toNat with
    | none =>
      have alone : decomposition c = [c] := by simp [decomposition, syllable, row]
      rw [alone] at h
      obtain rfl := List.mem_singleton.1 h
      exact .itself alone
    | some codes =>
      simp only [decomposition, syllable, row] at h
      obtain ⟨n, mem, rfl⟩ := List.mem_map.1 h
      have part := IsPart.row (CodeMap.mem_of_find? row) mem
      rwa [Char.ofNat_toNat] at part

/-- A character that is no syllable does not decompose, or decomposes as its row says. -/
theorem decomposition_of_not_isHangulSyllable (plain : isHangulSyllable c.toNat = false) :
    decomposition c = [c] ∨
      ∃ codes, Decomposes c codes ∧ decomposition c = codes.map Char.ofNat := by
  cases row : decompositionRows.find? c.toNat with
  | none => exact .inl (by simp [decomposition, plain, row])
  | some codes => exact .inr ⟨codes, decomposes_of_find? row, by simp [decomposition, plain, row]⟩

/-- No part of a character decomposes further. -/
theorem decomposition_of_mem (h : d ∈ decomposition c) : decomposition d = [d] := by
  cases isPart_of_mem h with
  | itself alone => exact alone
  | letter _ letter => exact decomposition_letter letter
  | row row mem => exact ((decomposes _ row).alone _ mem).1

theorem decomposition_ne_nil (c : Char) : decomposition c ≠ [] := by
  rw [decomposition]
  split
  · rw [hangulLetters]
    split <;> simp
  · cases row : decompositionRows.find? c.toNat with
    | none => simp
    | some codes => simpa using (decomposes_of_find? row).filled

/-- The parts of a character are shown as it is. -/
theorem isShown_of_mem_decomposition (h : d ∈ decomposition c) : isShown d = isShown c := by
  cases isPart_of_mem h with
  | itself => rfl
  | letter syllable letter =>
    rw [isShown_of_isHangul (isHangul_of_isHangulSyllable syllable),
      isShown_ofNat_of_isHangul (.inl letter)]
  | row row mem =>
    rcases (decomposes _ row).shown with ⟨whole, parts⟩ | ⟨-, parts⟩
    · rw [whole, parts _ mem]
    · rw [isShown, isShown, (parts _ mem).1, (parts _ mem).2]

theorem not_isHangulSyllable_of_not_isShown (hidden : isShown c = false) :
    isHangulSyllable c.toNat = false := by
  cases syllable : isHangulSyllable c.toNat with
  | false => rfl
  | true =>
    rw [isShown_of_isHangul (isHangul_of_isHangulSyllable syllable)] at hidden
    cases hidden

/-- A character that is not shown decomposes into one, which is blank or invisible as it is. -/
theorem decomposition_of_not_isShown (hidden : isShown c = false) :
    ∃ d, decomposition c = [d] ∧ isBlank d = isBlank c ∧ isInvisible d = isInvisible c := by
  have plain := not_isHangulSyllable_of_not_isShown hidden
  rcases decomposition_of_not_isHangulSyllable plain with alone | ⟨codes, row, parts⟩
  · exact ⟨c, alone, rfl, rfl⟩
  · rcases row.shown with ⟨shown, -⟩ | ⟨one, same⟩
    · rw [shown] at hidden
      cases hidden
    · obtain ⟨n, rfl⟩ := List.length_eq_one_iff.1 one
      exact ⟨Char.ofNat n, parts, same n List.mem_cons_self⟩

/-- The parts of a character are blank or invisible as it is. -/
theorem kind_of_mem_decomposition (h : d ∈ decomposition c) :
    isBlank d = isBlank c ∧ isInvisible d = isInvisible c := by
  cases shown : isShown c with
  | true =>
    have shownD := (isShown_of_mem_decomposition h).trans shown
    rw [not_isBlank_of_isShown shown, not_isBlank_of_isShown shownD,
      not_isInvisible_of_isShown shown, not_isInvisible_of_isShown shownD]
    exact ⟨rfl, rfl⟩
  | false =>
    obtain ⟨e, part, kind⟩ := decomposition_of_not_isShown shown
    rw [part, List.mem_singleton] at h
    exact h ▸ kind

theorem eq_sigma_of_mem_decomposition (h : d ∈ decomposition c) (sigma : d = 'Σ') : c = 'Σ' := by
  cases isPart_of_mem h with
  | itself => exact sigma
  | @letter _ n _ letter =>
    have code : (Char.ofNat n).toNat = n := toNat_ofNat_of_lt (by omega)
    rw [sigma] at code
    exact absurd letter (by rw [← code]; decide)
  | row row mem => exact absurd sigma ((decomposes _ row).alone _ mem).2

/-- A syllable fits with its parts. -/
theorem composes_of_hangulComposite? {n : Nat}
    (letters : hangulComposite? a.toNat b.toNat = some n) : Composes a b (Char.ofNat n) where
  shown := by
    obtain ⟨first, second, both⟩ := isHangul_of_hangulComposite? letters
    exact ⟨isShown_of_isHangul first, isShown_of_isHangul second, isShown_ofNat_of_isHangul both⟩
  parts := by
    obtain ⟨syllable, _, _, ⟨first, last, eq⟩ | ⟨first, eq⟩⟩ := hangulLetters_composite letters
    · have alone := decomposition_letter ⟨first, last⟩
      rw [Char.ofNat_toNat] at alone
      rw [decomposition_syllable syllable, eq, alone]
      simp
    · have two := decomposition_syllable first
      rw [Char.ofNat_toNat] at two
      rw [decomposition_syllable syllable, eq, two]
      simp
  lower := fun _ => by
    have hangul := (isHangul_of_hangulComposite? letters).2.2
    refine (casing_of_isHangul ?_).1
    rwa [toNat_ofNat_of_lt]
    rcases hangul with hangul | hangul <;> omega

/-- A composite fits with its parts, also if the table does not have it. -/
theorem composes_of_composite? (h : composite? a b = some c) : Composes a b c := by
  rw [composite?] at h
  split at h
  · next n letters =>
    obtain rfl := Option.some.inj h
    exact composes_of_hangulComposite? letters
  · split at h
    · next firsts row =>
      obtain ⟨code, first, rfl⟩ := Option.map_eq_some_iff.1 h
      have fits := composes _ (CodeMap.mem_of_find? row) _ (mem_of_lookup_eq_some first)
      rwa [Char.ofNat_toNat, Char.ofNat_toNat] at fits
    · cases h

/-! ## Lowering a character -/

theorem flatMap_eq_self {f : Char → List Char} {cs : List Char} (h : ∀ c ∈ cs, f c = [c]) :
    cs.flatMap f = cs := by
  rw [List.flatMap_congr h, List.flatMap_singleton']

theorem lowerChar_of_isLower (h : isLower c = true) : lowerChar c = [c] := by
  rw [lowerChar, Option.isNone_iff_eq_none.1 h]

theorem isLower_of_isHangul (h : IsHangul c.toNat) : isLower c = true := (casing_of_isHangul h).1

/-- A letter of syllables has no case. -/
theorem casing_letter {n : Nat} (h : 0x1100 ≤ n ∧ n ≤ 0x11C2) : isLower (Char.ofNat n) = true ∧
    isCased (Char.ofNat n) = false ∧ isCaseIgnorable (Char.ofNat n) = false := by
  refine casing_of_isHangul (.inl ?_)
  rwa [toNat_ofNat_of_lt (by omega)]

/-- The parts of a character in lower case are in lower case. -/
theorem isLower_of_mem_decomposition (h : d ∈ decomposition c) (lower : isLower c = true) :
    isLower d = true := by
  cases isPart_of_mem h with
  | itself => exact lower
  | letter _ letter => exact (casing_letter letter).1
  | row row mem =>
    rcases (decomposes _ row).lower with ⟨-, parts⟩ | ⟨upper, -⟩
    · exact parts _ mem
    · rw [upper] at lower
      cases lower

/-- Lower case stays as it is. -/
theorem isLower_of_mem_lowerChar (h : d ∈ lowerChar c) : isLower d = true := by
  rw [lowerChar] at h
  split at h
  · next codes row =>
    obtain ⟨n, mem, rfl⟩ := List.mem_map.1 h
    exact ((lowers_of_find? row).stays n mem).1
  · next none =>
    rw [List.mem_singleton.1 h, isLower, none]
    rfl

theorem lowerChar_ne_nil (c : Char) : lowerChar c ≠ [] := by
  rw [lowerChar]
  split
  · next codes row =>
    simpa using (lowers_of_find? row).filled
  · simp

/-- Lower case is shown as the character is. -/
theorem isShown_of_mem_lowerChar (h : d ∈ lowerChar c) : isShown d = isShown c := by
  rw [lowerChar] at h
  split at h
  · next codes row =>
    obtain ⟨n, mem, rfl⟩ := List.mem_map.1 h
    have fits := lowers_of_find? row
    rw [(fits.stays n mem).2, fits.shown]
  · rw [List.mem_singleton.1 h]

theorem not_isHangulSyllable_of_upper (upper : isLower c = false) :
    isHangulSyllable c.toNat = false := by
  cases syllable : isHangulSyllable c.toNat with
  | false => rfl
  | true =>
    rw [isLower_of_isHangul (isHangul_of_isHangulSyllable syllable)] at upper
    cases upper

/-- Lowering the parts of a character or the character leads to the same parts. -/
theorem flatMap_lowerChar_decomposition (c : Char) :
    ((decomposition c).flatMap lowerChar).flatMap decomposition =
      (lowerChar c).flatMap decomposition := by
  cases lower : isLower c with
  | true =>
    have parts : (decomposition c).flatMap decomposition = decomposition c :=
      flatMap_eq_self fun d mem => decomposition_of_mem mem
    have lowered : (decomposition c).flatMap lowerChar = decomposition c :=
      flatMap_eq_self fun d mem => lowerChar_of_isLower (isLower_of_mem_decomposition mem lower)
    rw [lowered, lowerChar_of_isLower lower, parts, List.flatMap_singleton]
  | false =>
    have plain := not_isHangulSyllable_of_upper lower
    rcases decomposition_of_not_isHangulSyllable plain with alone | ⟨codes, row, parts⟩
    · rw [alone, List.flatMap_singleton]
    · rcases row.lower with ⟨lower', -⟩ | ⟨-, eq⟩
      · rw [lower'] at lower
        cases lower
      · rw [parts, eq]

/-- Only shown characters have a lower case. -/
theorem isLower_of_not_isShown (hidden : isShown c = false) : isLower c = true := by
  cases row : lowerCaseRows.find? c.toNat with
  | none => rw [isLower, row, Option.isNone_none]
  | some codes =>
    have shown := (lowers_of_find? row).shown
    rw [hidden] at shown
    cases shown

/-! ## The context of `Σ` -/

/-- The code points of the blanks. -/
def blankCodes : List Nat :=
  [0x09, 0x0A, 0x0B, 0x0C, 0x0D, 0x20, 0x85, 0xA0, 0x1680, 0x2000, 0x2001, 0x2002, 0x2003, 0x2004,
    0x2005, 0x2006, 0x2007, 0x2008, 0x2009, 0x200A, 0x2028, 0x2029, 0x202F, 0x205F, 0x3000]

/-- The code points of the invisible marks. -/
def invisibleCodes : List Nat :=
  [0xAD, 0x34F, 0x180E, 0x200B, 0x200C, 0x200D, 0x200E, 0x200F, 0x202A, 0x202B, 0x202C, 0x202D,
    0x202E, 0x2060, 0x2061, 0x2062, 0x2063, 0x2064, 0x2066, 0x2067, 0x2068, 0x2069, 0xFEFF]

theorem toNat_mem_blankCodes (h : isBlank c = true) : c.toNat ∈ blankCodes := by
  simp only [isBlank, Bool.or_eq_true, Bool.and_eq_true, beq_iff_eq, decide_eq_true_eq] at h
  simp only [blankCodes, List.mem_cons, List.not_mem_nil, or_false]
  omega

theorem toNat_mem_invisibleCodes (h : isInvisible c = true) : c.toNat ∈ invisibleCodes := by
  simp only [isInvisible, Bool.or_eq_true, Bool.and_eq_true, beq_iff_eq, decide_eq_true_eq] at h
  simp only [invisibleCodes, List.mem_cons, List.not_mem_nil, or_false]
  omega

/-- A blank ends a word for `Σ`, as the end of the text does. -/
theorem casing_of_isBlank (h : isBlank c = true) :
    isCaseIgnorable c = false ∧ isCased c = false := by
  have blanks : ∀ n ∈ blankCodes, isCaseIgnorable (Char.ofNat n) = false ∧
      isCased (Char.ofNat n) = false := by decide +kernel
  have casing := blanks _ (toNat_mem_blankCodes h)
  rwa [Char.ofNat_toNat] at casing

/-- An invisible mark is ignored in casing. -/
theorem isCaseIgnorable_of_isInvisible (h : isInvisible c = true) : isCaseIgnorable c = true := by
  have marks : ∀ n ∈ invisibleCodes, isCaseIgnorable (Char.ofNat n) = true := by decide +kernel
  have ignorable := marks _ (toNat_mem_invisibleCodes h)
  rwa [Char.ofNat_toNat] at ignorable

/-- `Σ` does not decompose, and has a lower case. -/
theorem letter_sigma : decomposition 'Σ' = ['Σ'] ∧ isLower 'Σ' = false := by
  decide +kernel

/-- The two lower cases of `Σ`. -/
theorem isLower_sigma : isLower 'σ' = true ∧ isLower 'ς' = true := by
  decide +kernel

/-- A character is ignored in casing exactly if all of its parts are. -/
theorem all_isCaseIgnorable_decomposition (c : Char) :
    (decomposition c).all isCaseIgnorable = isCaseIgnorable c := by
  cases syllable : isHangulSyllable c.toNat with
  | true =>
    have whole := casing_of_isHangul (isHangul_of_isHangulSyllable syllable)
    have first := casing_letter (mem_hangulLetters syllable (m := 0x1100 + (c.toNat - 0xAC00) / 588)
      (by rw [hangulLetters]; split <;> simp))
    rw [decomposition, if_pos syllable, whole.2.2, hangulLetters]
    split <;> simp [first.2.2]
  | false =>
    rcases decomposition_of_not_isHangulSyllable syllable with alone | ⟨codes, row, parts⟩
    · simp [alone]
    · rw [parts, row.ignorable]

/-- A part that is not ignored in casing is cased as the character is. -/
theorem isCased_of_mem_decomposition (h : d ∈ decomposition c) :
    isCaseIgnorable d = true ∨ isCased d = isCased c := by
  cases isPart_of_mem h with
  | itself => exact .inr rfl
  | letter syllable letter =>
    have whole := casing_of_isHangul (isHangul_of_isHangulSyllable syllable)
    exact .inr ((casing_letter letter).2.1.trans whole.2.1.symm)
  | row row mem => exact (decomposes _ row).cased _ mem

/-- A character that is sorted among others is a mark. -/
theorem isMark_of_combiningClass (h : combiningClass c ≠ 0) : IsMark c := by
  rw [combiningClass, ← getD_scan] at h
  cases found : CodeRows.scan combiningClassRows c.toNat with
  | none =>
    rw [found] at h
    exact absurd rfl h
  | some cls =>
    obtain ⟨row, mem, within⟩ := CodeRows.exists_of_scan found
    have code : c.toNat ∈ List.range' row.1 (row.2.1 + 1 - row.1) := by
      rw [List.mem_range'_1]
      omega
    have mark := isMark_of_mem row mem _ code
    rwa [Char.ofNat_toNat] at mark

end Text

end KnowledgeGraph

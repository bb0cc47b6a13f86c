import KnowledgeGraph.Proofs.Text.Normal

/-!
# Texts without content

A text has content when one of its characters is neither blank nor invisible (`HasContent`).  That
is a matter of its characters alone, and still it decides whether anything is left of the text in
its normal form (`normalize_ne_empty_iff`).  So a text that consists of an invisible mark is not
blank, and its normal form is empty.

Each step of normalizing keeps whether there is such a character.  In the tables, a character that
is neither blank nor invisible is decomposed into ones of which some are neither, nothing else takes
part in composing, and no lower case is blank.
-/

namespace KnowledgeGraph.Text

open Character

/-- Some character of the text is neither blank nor invisible. -/
def HasContent (s : String) : Prop := s.toList.any isShown = true

instance (s : String) : Decidable (HasContent s) := inferInstanceAs (Decidable (_ = true))

/-! ## Composing -/

/-- What holds of all of some characters alike holds of one of them as of each. -/
theorem any_eq_of_alike {p : Char → Bool} {holds : Bool} {cs : List Char} (filled : cs ≠ [])
    (alike : ∀ c ∈ cs, p c = holds) : cs.any p = holds := by
  obtain ⟨c, rest, rfl⟩ := List.exists_cons_of_ne_nil filled
  obtain ⟨first, others⟩ := List.forall_mem_cons.1 alike
  rw [List.any_cons, first, Bool.or_eq_left_iff_imp, List.any_eq_true]
  rintro ⟨d, mem, holdsD⟩
  rw [← others d mem, holdsD]

theorem any_isShown_decomposition (c : Char) : (decomposition c).any isShown = isShown c :=
  any_eq_of_alike (decomposition_ne_nil c) fun _ part => isShown_of_mem_decomposition part

theorem any_sortMarks (p : Char → Bool) (cs : List Char) : (sortMarks cs).any p = cs.any p := by
  rw [Bool.eq_iff_iff, List.any_eq_true, List.any_eq_true]
  simp only [mem_sortMarks]

/-- Composing keeps whether there is a shown character: it puts shown ones together. -/
theorem any_isShown_composeAfter (starter : Char) (marks cs : List Char) :
    (composeAfter starter marks cs).any isShown =
      (isShown starter || marks.any isShown || cs.any isShown) := by
  induction cs generalizing starter marks with
  | nil => simp [composeAfter]
  | cons c cs ih =>
    rw [composeAfter]
    split
    · next joined composed =>
      have pair : composite? starter c = some joined := by
        split at composed
        · cases composed
        · exact composed
      obtain ⟨first, -, both⟩ := (composes_of_composite? pair).shown
      simp [ih, first, both]
    · split
      · simp [ih, Bool.or_assoc]
      · simp only [ih, List.any_cons, Bool.or_assoc, Bool.or_left_comm]

theorem any_isShown_compose (cs : List Char) : (compose cs).any isShown = cs.any isShown := by
  induction cs with
  | nil => rfl
  | cons c cs ih =>
    rw [compose]
    split
    · simp [any_isShown_composeAfter]
    · rw [List.any_cons, ih, List.any_cons]

theorem any_isShown_composed (cs : List Char) : (composed cs).any isShown = cs.any isShown := by
  rw [composed, any_isShown_compose, decomposed, any_sortMarks, List.any_flatMap]
  simp only [any_isShown_decomposition]

/-! ## Lower case and words -/

/-- No lower case consists of blanks, unless it is the one of a blank. -/
theorem any_lowerChar (c : Char) : (lowerChar c).any (!isBlank ·) = !isBlank c := by
  cases shown : isShown c with
  | true =>
    refine any_eq_of_alike (lowerChar_ne_nil c) fun d mem => ?_
    rw [not_isBlank_of_isShown ((isShown_of_mem_lowerChar mem).trans shown),
      not_isBlank_of_isShown shown]
  | false => simp [lowerChar_of_isLower (isLower_of_not_isShown shown)]

theorem any_lowerAfter (before cs : List Char) :
    (lowerAfter before cs).any (!isBlank ·) = cs.any (!isBlank ·) := by
  induction cs generalizing before with
  | nil => rfl
  | cons c cs ih =>
    rw [lowerAfter, List.any_append, ih, List.any_cons]
    congr 1
    split
    · next sigma =>
      subst sigma
      split <;> decide
    · exact any_lowerChar c

/-- A text has a word unless all of it is blank. -/
theorem words_eq_nil_iff {cs : List Char} : words cs = [] ↔ cs.any (!isBlank ·) = false := by
  induction cs with
  | nil => simp [words, pieces, stretches]
  | cons c cs ih =>
    cases blank : isBlank c with
    | true => rw [words_cons blank, ih, List.any_cons, blank]; rfl
    | false =>
      have first : words (c :: cs) ≠ [] := by
        rw [words, pieces, stretches, if_neg (by simp [blank])]
        split <;> simp
      simp [first, blank]

/-- Words are not empty, so their line is not either if there are any. -/
theorem unwords_words_eq_nil_iff {cs : List Char} : unwords (words cs) = [] ↔ words cs = [] := by
  cases eq : words cs with
  | nil => simp [unwords]
  | cons w ws =>
    have filled : w ≠ [] := by
      have mem : w ∈ words cs := eq ▸ List.mem_cons_self
      simpa using (List.mem_filter.1 mem).2
    cases ws <;> simp [unwords, List.intercalate, filled]

/-! ## The normal form -/

theorem any_filter_visible (cs : List Char) :
    (cs.filter (!isInvisible ·)).any (!isBlank ·) = cs.any isShown := by
  rw [List.any_filter]
  congr 1
  funext c
  exact Bool.and_comm _ _

/-- Something is left of a text in its normal form exactly if the text has content. -/
theorem normalize_ne_empty_iff {s : String} : normalize s ≠ "" ↔ HasContent s := by
  have left : normalize s = "" ↔ normalChars s.toList = [] := by
    simp [normalize]
  rw [Ne, left, normalChars, unwords_words_eq_nil_iff, words_eq_nil_iff, lowerChars,
    any_lowerAfter, any_filter_visible, any_isShown_composed, HasContent, Bool.not_eq_false]

/-- A normal form that is not empty has content. -/
theorem hasContent_normalize {s : String} (h : normalize s ≠ "") : HasContent (normalize s) := by
  rw [HasContent, toList_normalize]
  by_contra hidden
  -- All that a normal form has beside shown characters are spaces, so there would be no word.
  have blank : (normalChars s.toList).any (!isBlank ·) = false := by
    rw [List.any_eq_false]
    intro c mem
    rcases of_mem_normalChars mem with rfl | ⟨shown, -⟩
    · decide
    · exact absurd (List.any_eq_true.2 ⟨c, mem, shown⟩) hidden
  have none : normalWords s.toList = [] := by
    rw [← words_unwords fun _ mem => isWord_of_mem_normalWords mem, ← normalChars_eq,
      words_eq_nil_iff]
    exact blank
  refine h ?_
  rw [normalize, normalChars_eq, none]
  rfl

end KnowledgeGraph.Text

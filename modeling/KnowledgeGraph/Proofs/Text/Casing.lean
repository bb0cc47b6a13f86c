import KnowledgeGraph.Proofs.Text.Equivalence

/-!
# Lower case and equivalence

Lowering goes from character to character, and only `Σ` looks around.  What it sees of the text
before and behind it is whether the text starts cased (`lowerAfter_congr`).

* Equivalent texts have equivalent lower cases (`decomposed_lowerChars_congr`).  So a text may be
  decomposed before it is lowered.
* A text in lower case stays as it is (`lowerAfter_eq_self`), and every lower case is in lower case
  (`isLower_of_mem_lowerAfter`).
* Invisible marks may be removed before (`filter_lowerAfter`).
* A text is lowered apart before and after a character that ends words, such as a blank
  (`EndsWord.lowerChars_append_cons`).
-/

namespace KnowledgeGraph.Text

open Character

variable {b c d : Char} {before after cs ds : List Char}

/-! ## What `Σ` sees -/

theorem startsCased_cons (c : Char) (cs : List Char) :
    startsCased (c :: cs) = if isCaseIgnorable c then startsCased cs else isCased c := by
  cases ignorable : isCaseIgnorable c <;> simp [startsCased, ignorable]

/-- Lowering sees of the text before it whether it starts cased. -/
theorem lowerAfter_congr (h : startsCased before = startsCased after) (cs : List Char) :
    lowerAfter before cs = lowerAfter after cs := by
  induction cs generalizing before after with
  | nil => rfl
  | cons c cs ih =>
    have next : startsCased (c :: before) = startsCased (c :: after) := by
      rw [startsCased_cons, startsCased_cons, h]
    rw [lowerAfter, lowerAfter, h, ih next]

/-- A stretch in which all that is not ignored is cased alike is passed over, or decides. -/
theorem startsCased_append {cased : Bool}
    (alike : ∀ c ∈ cs, isCaseIgnorable c = true ∨ isCased c = cased) (ds : List Char) :
    startsCased (cs ++ ds) = if cs.all isCaseIgnorable then startsCased ds else cased := by
  induction cs with
  | nil => rfl
  | cons c cs ih =>
    obtain ⟨here, rest⟩ := List.forall_mem_cons.1 alike
    rw [List.cons_append, startsCased_cons, ih rest, List.all_cons]
    cases ignorable : isCaseIgnorable c with
    | true => rfl
    | false => exact here.resolve_left (by simp [ignorable])

/-- A character is seen as its parts are, -/
theorem startsCased_decomposition (c : Char) (cs : List Char) :
    startsCased (decomposition c ++ cs) = startsCased (c :: cs) := by
  rw [startsCased_append fun _ part => isCased_of_mem_decomposition part,
    all_isCaseIgnorable_decomposition, startsCased_cons]

/-- from both sides. -/
theorem startsCased_reverse_decomposition (c : Char) (cs : List Char) :
    startsCased ((decomposition c).reverse ++ cs) = startsCased (c :: cs) := by
  rw [startsCased_append fun _ part => isCased_of_mem_decomposition (List.mem_reverse.1 part),
    List.all_reverse, all_isCaseIgnorable_decomposition, startsCased_cons]

theorem startsCased_flatMap_decomposition (cs : List Char) :
    startsCased (cs.flatMap decomposition) = startsCased cs := by
  induction cs with
  | nil => rfl
  | cons c cs ih =>
    rw [List.flatMap_cons, startsCased_decomposition, startsCased_cons, ih, startsCased_cons]

/-- The order of two marks does not count. -/
theorem startsCased_swap (hc : combiningClass c ≠ 0) (hd : combiningClass d ≠ 0)
    (cs : List Char) : startsCased (c :: d :: cs) = startsCased (d :: c :: cs) := by
  have first := (isMark_of_combiningClass hc).uncased
  have second := (isMark_of_combiningClass hd).uncased
  simp only [startsCased_cons]
  grind

theorem startsCased_insertMark (c : Char) (cs : List Char) :
    startsCased (insertMark c cs) = startsCased (c :: cs) := by
  induction cs with
  | nil => rfl
  | cons e es ih =>
    rw [insertMark]
    split
    · rw [startsCased_cons, ih, ← startsCased_cons, startsCased_swap (by omega) (by omega)]
    · rfl

theorem startsCased_sortMarks (cs : List Char) :
    startsCased (sortMarks cs) = startsCased cs := by
  induction cs with
  | nil => rfl
  | cons c cs ih => rw [sortMarks, startsCased_insertMark, startsCased_cons, ih, startsCased_cons]

/-! ## Lower case -/

theorem ne_sigma_of_isLower (lower : isLower c = true) : c ≠ 'Σ' := by
  rintro rfl
  rw [letter_sigma.2] at lower
  cases lower

theorem lowerAfter_cons (h : c ≠ 'Σ') (before cs : List Char) :
    lowerAfter before (c :: cs) = lowerChar c ++ lowerAfter (c :: before) cs := by
  rw [lowerAfter, if_neg h]

theorem lowerAfter_cons_of_isLower (lower : isLower c = true) (before cs : List Char) :
    lowerAfter before (c :: cs) = c :: lowerAfter (c :: before) cs := by
  rw [lowerAfter_cons (ne_sigma_of_isLower lower), lowerChar_of_isLower lower,
    List.singleton_append]

/-- A text in lower case stays as it is. -/
theorem lowerAfter_eq_self (lower : ∀ c ∈ cs, isLower c = true) : lowerAfter before cs = cs := by
  induction cs generalizing before with
  | nil => rfl
  | cons c cs ih =>
    obtain ⟨first, rest⟩ := List.forall_mem_cons.1 lower
    rw [lowerAfter_cons_of_isLower first, ih rest]

/-- What a lowered text has comes from one of its characters, or is a lower `Σ`. -/
theorem exists_of_mem_lowerAfter (h : d ∈ lowerAfter before cs) :
    d = 'σ' ∨ d = 'ς' ∨ ∃ c ∈ cs, d ∈ lowerChar c := by
  induction cs generalizing before with
  | nil => cases h
  | cons c cs ih =>
    rw [lowerAfter, List.mem_append] at h
    rcases h with here | rest
    · split at here
      · have sigma := List.mem_singleton.1 here
        split at sigma
        · exact .inr (.inl sigma)
        · exact .inl sigma
      · exact .inr (.inr ⟨c, List.mem_cons_self, here⟩)
    · refine (ih rest).imp_right (.imp_right ?_)
      rintro ⟨e, mem, lowered⟩
      exact ⟨e, List.mem_cons_of_mem _ mem, lowered⟩

/-- Every lower case is in lower case. -/
theorem isLower_of_mem_lowerAfter (h : d ∈ lowerAfter before cs) : isLower d = true := by
  rcases exists_of_mem_lowerAfter h with rfl | rfl | ⟨c, -, lowered⟩
  · exact isLower_sigma.1
  · exact isLower_sigma.2
  · exact isLower_of_mem_lowerChar lowered

/-! ## Equivalent texts -/

theorem lowerAfter_append (noSigma : ∀ c ∈ cs, c ≠ 'Σ') (before ds : List Char) :
    lowerAfter before (cs ++ ds) =
      cs.flatMap lowerChar ++ lowerAfter (cs.reverse ++ before) ds := by
  induction cs generalizing before with
  | nil => rfl
  | cons c cs ih =>
    obtain ⟨first, rest⟩ := List.forall_mem_cons.1 noSigma
    rw [List.cons_append, lowerAfter_cons first, ih rest]
    simp

/-- Lowering what the characters consist of and lowering them comes to the same. -/
theorem flatMap_decomposition_lowerAfter (h : startsCased before = startsCased after)
    (cs : List Char) : (lowerAfter before (cs.flatMap decomposition)).flatMap decomposition =
      (lowerAfter after cs).flatMap decomposition := by
  induction cs generalizing before after with
  | nil => rfl
  | cons c cs ih =>
    by_cases sigma : c = 'Σ'
    · subst sigma
      have next : startsCased ('Σ' :: before) = startsCased ('Σ' :: after) := by
        rw [startsCased_cons, startsCased_cons, h]
      rw [List.flatMap_cons, letter_sigma.1, List.singleton_append, lowerAfter, lowerAfter,
        startsCased_flatMap_decomposition, h, List.flatMap_append, List.flatMap_append, ih next]
    · have noSigma : ∀ d ∈ decomposition c, d ≠ 'Σ' :=
        fun d part whole => sigma (eq_sigma_of_mem_decomposition part whole)
      have next : startsCased ((decomposition c).reverse ++ before) =
          startsCased (c :: after) := by
        rw [startsCased_reverse_decomposition, startsCased_cons, startsCased_cons, h]
      rw [List.flatMap_cons, lowerAfter_append noSigma, lowerAfter_cons sigma,
        List.flatMap_append, List.flatMap_append, flatMap_lowerChar_decomposition, ih next]

/-- A mark may be sorted into a text before or after the text is lowered. -/
theorem decomposed_lowerAfter_insertMark (before : List Char)
    (parts : ∀ d ∈ c :: cs, decomposition d = [d]) :
    decomposed (lowerAfter before (insertMark c cs)) =
      decomposed (lowerAfter before (c :: cs)) := by
  induction cs generalizing before with
  | nil => rfl
  | cons e es ih =>
    rw [insertMark]
    split
    · next passes =>
      have markC : combiningClass c ≠ 0 := by omega
      have markE : combiningClass e ≠ 0 := by omega
      have lowerC := (isMark_of_combiningClass markC).lower
      have lowerE := (isMark_of_combiningClass markE).lower
      have order : startsCased (c :: e :: before) = startsCased (e :: c :: before) :=
        startsCased_swap markC markE before
      obtain ⟨partC, partE, rest⟩ : decomposition c = [c] ∧ decomposition e = [e] ∧
          ∀ d ∈ es, decomposition d = [d] := by simpa using parts
      rw [lowerAfter_cons_of_isLower lowerE, decomposed_cons_of_alone partE,
        ih (e :: before) (List.forall_mem_cons.2 ⟨partC, rest⟩),
        lowerAfter_cons_of_isLower lowerC, lowerAfter_cons_of_isLower lowerC,
        lowerAfter_cons_of_isLower lowerE, lowerAfter_congr order,
        decomposed_cons_of_alone partC, decomposed_cons_of_alone partC,
        decomposed_cons_of_alone partE, insertMark_comm (by omega) (by omega) (by omega)]
    · rfl

theorem decomposed_lowerAfter_sortMarks (before : List Char)
    (parts : ∀ d ∈ cs, decomposition d = [d]) :
    decomposed (lowerAfter before (sortMarks cs)) = decomposed (lowerAfter before cs) := by
  induction cs generalizing before with
  | nil => rfl
  | cons c cs ih =>
    obtain ⟨first, rest⟩ := List.forall_mem_cons.1 parts
    have sorted : ∀ d ∈ c :: sortMarks cs, decomposition d = [d] :=
      List.forall_mem_cons.2 ⟨first, fun d mem => rest d (mem_sortMarks.1 mem)⟩
    rw [sortMarks, decomposed_lowerAfter_insertMark before sorted, lowerAfter, lowerAfter,
      startsCased_sortMarks, decomposed_append, ih _ rest, ← decomposed_append]

/-- A text may be decomposed before it is lowered. -/
theorem decomposed_lowerChars_decomposed (cs : List Char) :
    decomposed (lowerChars (decomposed cs)) = decomposed (lowerChars cs) := by
  have parts : ∀ d ∈ cs.flatMap decomposition, decomposition d = [d] := by
    intro d mem
    obtain ⟨c, -, part⟩ := List.mem_flatMap.1 mem
    exact decomposition_of_mem part
  have sorted : decomposed (lowerChars (decomposed cs)) =
      decomposed (lowerChars (cs.flatMap decomposition)) :=
    decomposed_lowerAfter_sortMarks [] parts
  rw [sorted, decomposed, lowerChars, flatMap_decomposition_lowerAfter rfl]
  rfl

/-- Equivalent texts have equivalent lower cases. -/
theorem decomposed_lowerChars_congr (h : decomposed cs = decomposed ds) :
    decomposed (lowerChars cs) = decomposed (lowerChars ds) := by
  rw [← decomposed_lowerChars_decomposed, h, decomposed_lowerChars_decomposed]

/-! ## Characters that are not shown -/

/-- Lowering brings up no invisible marks. -/
theorem isInvisible_of_mem_lowerChar (h : d ∈ lowerChar c) (visible : isInvisible c = false) :
    isInvisible d = false := by
  cases shown : isShown c with
  | true => exact not_isInvisible_of_isShown ((isShown_of_mem_lowerChar h).trans shown)
  | false =>
    rw [lowerChar_of_isLower (isLower_of_not_isShown shown), List.mem_singleton] at h
    rwa [h]

theorem startsCased_filter (cs : List Char) :
    startsCased (cs.filter (!isInvisible ·)) = startsCased cs := by
  induction cs with
  | nil => rfl
  | cons c cs ih =>
    cases invisible : isInvisible c with
    | true =>
      rw [List.filter_cons_of_neg (by simp [invisible]), ih, startsCased_cons,
        if_pos (isCaseIgnorable_of_isInvisible invisible)]
    | false =>
      rw [List.filter_cons_of_pos (by simp [invisible]), startsCased_cons, ih, startsCased_cons]

/-- Invisible marks may be removed before or after a text is lowered. -/
theorem filter_lowerAfter (h : startsCased before = startsCased after) (cs : List Char) :
    (lowerAfter before cs).filter (!isInvisible ·) =
      lowerAfter after (cs.filter (!isInvisible ·)) := by
  induction cs generalizing before after with
  | nil => rfl
  | cons c cs ih =>
    cases invisible : isInvisible c with
    | true =>
      have next : startsCased (c :: before) = startsCased after := by
        rw [startsCased_cons, if_pos (isCaseIgnorable_of_isInvisible invisible), h]
      have lower := isLower_of_not_isShown (not_isShown_of_isInvisible invisible)
      rw [lowerAfter_cons_of_isLower lower, List.filter_cons_of_neg (by simp [invisible]), ih next,
        List.filter_cons_of_neg (by simp [invisible])]
    | false =>
      have next : startsCased (c :: before) = startsCased (c :: after) := by
        rw [startsCased_cons, startsCased_cons, h]
      rw [List.filter_cons_of_pos (by simp [invisible]), lowerAfter, lowerAfter,
        List.filter_append, ih next, startsCased_filter, h]
      congr 1
      rw [List.filter_eq_self]
      intro d mem
      split at mem
      · have sigma := List.mem_singleton.1 mem
        split at sigma <;> subst sigma <;> decide
      · simp [isInvisible_of_mem_lowerChar mem invisible]

/-! ## Ends of words -/

/-- Characters that end a word for `Σ`, as the end of the text does, and stay as they are. -/
structure EndsWord (b : Char) : Prop where
  /-- They are not passed over. -/
  stays : isCaseIgnorable b = false
  /-- They are not cased. -/
  uncased : isCased b = false
  /-- They are in lower case. -/
  lower : isLower b = true

theorem endsWord_of_isBlank (h : isBlank b = true) : EndsWord b where
  stays := (casing_of_isBlank h).1
  uncased := (casing_of_isBlank h).2
  lower := isLower_of_not_isShown (not_isShown_of_isBlank h)

namespace EndsWord

theorem startsCased_append_cons (h : EndsWord b) (cs ds : List Char) :
    startsCased (cs ++ b :: ds) = startsCased cs := by
  induction cs with
  | nil => rw [List.nil_append, startsCased_cons, h.stays, h.uncased]; rfl
  | cons c cs ih => rw [List.cons_append, startsCased_cons, ih, startsCased_cons]

theorem lowerAfter_append_cons (h : EndsWord b) (before cs ds : List Char) :
    lowerAfter before (cs ++ b :: ds) = lowerAfter before cs ++ b :: lowerAfter [] ds := by
  induction cs generalizing before with
  | nil =>
    have anew : startsCased (b :: before) = startsCased [] := by
      rw [startsCased_cons, h.stays, h.uncased]
      rfl
    rw [List.nil_append, lowerAfter_cons_of_isLower h.lower, lowerAfter_congr anew]
    rfl
  | cons c cs ih =>
    rw [List.cons_append, lowerAfter, lowerAfter, ih, h.startsCased_append_cons, List.append_assoc]

/-- A text is lowered apart before and after a character that ends words. -/
theorem lowerChars_append_cons (h : EndsWord b) (cs ds : List Char) :
    lowerChars (cs ++ b :: ds) = lowerChars cs ++ b :: lowerChars ds :=
  h.lowerAfter_append_cons [] cs ds

end EndsWord

end KnowledgeGraph.Text

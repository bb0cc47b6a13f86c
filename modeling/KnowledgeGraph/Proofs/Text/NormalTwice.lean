import KnowledgeGraph.Proofs.Text.Normal

/-!
# Normal forms of normal forms

Composing is the first step of normalizing, and the steps after it may leave characters side by side
that compose.  An invisible mark is removed only after it has kept a letter and its accent apart,
and a few letters have a lower case that composes with the accent behind it although the capital
does not.  So a normal form need not be composed, and normalizing it composes it
(`normalChars_normalChars`).

* A text has one normal form exactly if that is a composed text, and never more than two
  (`normalize_normalize_iff`).
* Invisible marks and case count for a normal form exactly where something composes across the mark
  or in one case only.  They never count for the second normal form (`normalize_edited`), since
  equivalent texts have equivalent words (`composed_unwords_words_congr`).
-/

namespace KnowledgeGraph.Text

open Character

variable {cs ds : List Char}

/-! ## Normalizing a line of letters -/

theorem isApart_space : IsApart ' ' := isApart_of_not_isShown (by decide) (by decide +kernel)

/-- The words of a line are composed apart. -/
theorem composed_unwords (ws : List (List Char)) :
    composed (unwords ws) = unwords (ws.map composed) :=
  map_unwords rfl (isApart_space.composed_append_cons isApart_space.alone) ws

theorem decomposed_unwords (ws : List (List Char)) :
    decomposed (unwords ws) = unwords (ws.map decomposed) :=
  map_unwords rfl (isApart_space.decomposed_append_cons isApart_space.alone) ws

theorem composed_ne_nil (filled : cs ≠ []) : composed cs ≠ [] := by
  obtain ⟨c, ds, rfl⟩ := List.exists_cons_of_ne_nil filled
  intro none
  have same := decomposed_composed (c :: ds)
  rw [none] at same
  exact decomposed_cons_ne_nil c ds same.symm

/-- A word of shown characters is composed to one. -/
theorem isWord_composed (filled : cs ≠ []) (shown : ∀ c ∈ cs, isShown c = true) :
    IsWord (composed cs) where
  filled := composed_ne_nil filled
  solid c mem := not_isBlank_of_isShown (isShown_of_mem_composed shown c mem)

/-- Normalizing a line of words that have no invisible marks and are in lower case composes it. -/
theorem normalChars_unwords {ws : List (List Char)} (filled : ∀ w ∈ ws, w ≠ [])
    (shown : ∀ w ∈ ws, ∀ c ∈ w, isShown c = true) (lower : ∀ w ∈ ws, ∀ c ∈ w, isLower c = true) :
    normalChars (unwords ws) = composed (unwords ws) := by
  have line {c : Char} (mem : c ∈ unwords (ws.map composed)) :
      c = ' ' ∨ isShown c = true ∧ isLower c = true := by
    refine (mem_unwords mem).imp_right ?_
    rintro ⟨_, image, within⟩
    obtain ⟨w, memW, rfl⟩ := List.mem_map.1 image
    exact ⟨isShown_of_mem_composed (shown w memW) c within,
      isLower_of_mem_composed (lower w memW) c within⟩
  have visible : (unwords (ws.map composed)).filter (!isInvisible ·) =
      unwords (ws.map composed) := by
    refine List.filter_eq_self.2 fun c mem => ?_
    rcases line mem with rfl | ⟨shownC, -⟩
    · decide
    · rw [not_isInvisible_of_isShown shownC, Bool.not_false]
  have lowered : lowerChars (unwords (ws.map composed)) = unwords (ws.map composed) := by
    refine lowerAfter_eq_self fun c mem => ?_
    rcases line mem with rfl | ⟨-, lowerC⟩
    · exact isLower_of_not_isShown (by decide)
    · exact lowerC
  have wordwise : ∀ w ∈ ws.map composed, IsWord w := by
    intro _ image
    obtain ⟨w, mem, rfl⟩ := List.mem_map.1 image
    exact isWord_composed (filled w mem) (shown w mem)
  rw [normalChars, composed_unwords, visible, lowered, words_unwords wordwise]

/-- The normal form of a normal form is its composed form. -/
theorem normalChars_normalChars (cs : List Char) :
    normalChars (normalChars cs) = composed (normalChars cs) := by
  refine normalChars_unwords (fun w mem => (isWord_of_mem_normalWords mem).filled) ?_
    fun w mem c within => (of_mem_normalWords mem c within).2
  intro w mem c within
  have solid := (isWord_of_mem_normalWords mem).solid c within
  simp [isShown, solid, (of_mem_normalWords mem c within).1]

theorem composed_composed (cs : List Char) : composed (composed cs) = composed cs :=
  composed_eq_iff.2 (decomposed_composed cs)

theorem normalize_normalize (s : String) :
    normalize (normalize s) = String.ofList (composed (normalize s).toList) := by
  rw [normalize, toList_normalize, normalChars_normalChars]

/-- A text has one normal form exactly if that is a composed text.  No text has more than two: the
second is the normal form of itself. -/
theorem normalize_normalize_iff (s : String) :
    (normalize (normalize s) = normalize s ↔
      composed (normalize s).toList = (normalize s).toList) ∧
      normalize (normalize (normalize s)) = normalize (normalize s) := by
  constructor
  · rw [normalize_normalize, ← String.toList_inj, String.toList_ofList]
  · rw [normalize_normalize (normalize s), normalize_normalize, String.toList_ofList,
      composed_composed]

/-- An accent that an invisible mark keeps apart from its letter is composed only when the normal
form is normalized again. -/
theorem not_normalize_idempotent : ¬ ∀ s : String, normalize (normalize s) = normalize s := by
  intro claim
  exact absurd (claim "a\u200b\u0303") (by decide +kernel)

/-! ## Invisible marks and case -/

theorem filter_isShown (cs : List Char) :
    (cs.filter (!isInvisible ·)).filter (!isBlank ·) = cs.filter isShown :=
  List.filter_filter

theorem hidesPlainly_lowerChars (h : HidesPlainly cs) : HidesPlainly (lowerChars cs) := by
  intro d mem hidden
  rcases exists_of_mem_lowerAfter mem with rfl | rfl | ⟨c, memC, lowered⟩
  · cases hidden
  · cases hidden
  · have hiddenC : isShown c = false := (isShown_of_mem_lowerChar lowered).symm.trans hidden
    rw [lowerChar_of_isLower (isLower_of_not_isShown hiddenC), List.mem_singleton] at lowered
    exact lowered ▸ h c memC hiddenC

/-- The words of equivalent texts tell the texts apart. -/
theorem eq_of_unwords_words (equivalent : decomposed cs = decomposed ds) (hc : HidesPlainly cs)
    (hd : HidesPlainly ds) (same : unwords (words (cs.filter (!isInvisible ·))) =
      unwords (words (ds.filter (!isInvisible ·)))) : cs = ds := by
  refine eq_of_decomposed_eq equivalent ?_ hc hd
  rw [← filter_isShown, ← filter_isShown, ← filter_unwords_words, same, filter_unwords_words]

/-- The normal form of a text is read off its composed form in lower case. -/
theorem normalChars_eq_filter_lowerChars (cs : List Char) :
    normalChars cs = unwords (words ((lowerChars (composed cs)).filter (!isInvisible ·))) := by
  rw [normalChars, lowerChars, lowerChars, filter_lowerAfter rfl]

theorem normalChars_insert {c : Char} (invisible : isInvisible c = true) (cs ds : List Char) :
    normalChars (cs ++ c :: ds) =
      unwords (words ((lowerChars (composed cs ++ composed ds)).filter (!isInvisible ·))) := by
  obtain ⟨d, part, apart, -, same⟩ := exists_isApart (not_isShown_of_isInvisible invisible)
  have removed : (composed (cs ++ c :: ds)).filter (!isInvisible ·) =
      (composed cs ++ composed ds).filter (!isInvisible ·) := by
    rw [apart.composed_append_cons part, List.filter_append,
      List.filter_cons_of_neg (by simp [same, invisible]), List.filter_append]
  rw [normalChars, removed, lowerChars, lowerChars, filter_lowerAfter rfl]

theorem normalChars_lowerChars (cs : List Char) : normalChars (lowerChars cs) =
    unwords (words ((composed (lowerChars cs)).filter (!isInvisible ·))) := by
  have lower : ∀ c ∈ (composed (lowerChars cs)).filter (!isInvisible ·), isLower c = true :=
    fun c mem => isLower_of_mem_composed (fun d lowered => isLower_of_mem_lowerAfter lowered) c
      (List.mem_filter.1 mem).1
  rw [normalChars, lowerChars, lowerAfter_eq_self lower]

/-- Two texts in their composed forms are equivalent to the composed form of both. -/
theorem decomposed_composed_append (cs ds : List Char) :
    decomposed (composed cs ++ composed ds) = decomposed (composed (cs ++ ds)) := by
  rw [decomposed_append, decomposed_composed, decomposed_composed, decomposed_composed,
    ← decomposed_append]

/-- Composing before lowering leads to an equivalent text. -/
theorem decomposed_composed_lowerChars (cs : List Char) :
    decomposed (composed (lowerChars cs)) = decomposed (lowerChars (composed cs)) := by
  rw [decomposed_composed, decomposed_lowerChars_congr (decomposed_composed cs)]

/-- An invisible mark does not count exactly if nothing in lower case composes across it. -/
theorem normalChars_insert_iff {c : Char} (invisible : isInvisible c = true) (cs ds : List Char) :
    normalChars (cs ++ c :: ds) = normalChars (cs ++ ds) ↔
      lowerChars (composed cs ++ composed ds) = lowerChars (composed (cs ++ ds)) := by
  have equivalent := decomposed_lowerChars_congr (decomposed_composed_append cs ds)
  have parts : HidesPlainly (composed cs ++ composed ds) :=
    List.forall_mem_append.2 ⟨hidesPlainly_composed cs, hidesPlainly_composed ds⟩
  rw [normalChars_insert invisible, normalChars_eq_filter_lowerChars]
  constructor
  · exact eq_of_unwords_words equivalent (hidesPlainly_lowerChars parts)
      (hidesPlainly_lowerChars (hidesPlainly_composed _))
  · intro same
    rw [same]

/-- Case does not count exactly if a text may be lowered before or after it is composed. -/
theorem normalChars_lowerChars_iff (cs : List Char) :
    normalChars (lowerChars cs) = normalChars cs ↔
      composed (lowerChars cs) = lowerChars (composed cs) := by
  rw [normalChars_lowerChars, normalChars_eq_filter_lowerChars]
  constructor
  · exact eq_of_unwords_words (decomposed_composed_lowerChars cs) (hidesPlainly_composed _)
      (hidesPlainly_lowerChars (hidesPlainly_composed cs))
  · intro same
    rw [same]

/-! ## Equivalent texts have equivalent normal forms -/

theorem sortMarks_filter_insertMark (c : Char) (cs : List Char) :
    sortMarks ((insertMark c cs).filter (!isInvisible ·)) =
      sortMarks ((c :: cs).filter (!isInvisible ·)) := by
  have visible {d : Char} (mark : combiningClass d ≠ 0) : (!isInvisible d) = true := by
    rw [not_isInvisible_of_isShown (isMark_of_combiningClass mark).shown, Bool.not_false]
  induction cs with
  | nil => rfl
  | cons e es ih =>
    rw [insertMark]
    split
    · next passes =>
      have markC : combiningClass c ≠ 0 := by omega
      have markE : combiningClass e ≠ 0 := by omega
      simp only [List.filter_cons, visible markC, visible markE, if_true, sortMarks] at ih ⊢
      rw [ih, insertMark_comm passes.1 (by omega) (by omega)]
    · rfl

theorem sortMarks_filter_sortMarks (cs : List Char) :
    sortMarks ((sortMarks cs).filter (!isInvisible ·)) =
      sortMarks (cs.filter (!isInvisible ·)) := by
  induction cs with
  | nil => rfl
  | cons c cs ih =>
    rw [sortMarks, sortMarks_filter_insertMark]
    cases invisible : isInvisible c with
    | true => simpa [invisible] using ih
    | false => simp [invisible, sortMarks, ih]

/-- The decomposed form of a text tells the one of the text without its invisible marks. -/
theorem decomposed_filter (cs : List Char) : decomposed (cs.filter (!isInvisible ·)) =
    sortMarks ((decomposed cs).filter (!isInvisible ·)) := by
  rw [decomposed, decomposed, sortMarks_filter_sortMarks]
  congr 1
  induction cs with
  | nil => rfl
  | cons c cs ih =>
    have parts : (decomposition c).filter (!isInvisible ·) =
        if isInvisible c then [] else decomposition c := by
      have alike : ∀ d ∈ decomposition c, isInvisible d = isInvisible c :=
        fun d part => (kind_of_mem_decomposition part).2
      split
      · next invisible => simpa [invisible] using alike
      · next visible => simpa [visible] using alike
    rw [List.flatMap_cons, List.filter_append, parts, ← ih]
    cases invisible : isInvisible c <;> simp [invisible]

theorem isWord_decomposed {w : List Char} (h : IsWord w) : IsWord (decomposed w) where
  filled := by
    obtain ⟨c, cs, rfl⟩ := List.exists_cons_of_ne_nil h.filled
    exact decomposed_cons_ne_nil c cs
  solid d mem := by
    obtain ⟨c, memC, part⟩ := mem_decomposed mem
    rw [(kind_of_mem_decomposition part).1, h.solid c memC]

theorem words_decomposed_of_solid {w : List Char} (solid : ∀ c ∈ w, isBlank c = false) :
    words (decomposed w) = (words w).map decomposed := by
  cases w with
  | nil => rfl
  | cons c cs =>
    have word : IsWord (c :: cs) := ⟨by simp, solid⟩
    rw [word.words_eq, (isWord_decomposed word).words_eq]
    rfl

/-- The words of a decomposed text are its decomposed words. -/
theorem words_decomposed_append {w : List Char} (solid : ∀ c ∈ w, isBlank c = false)
    (cs : List Char) : words (decomposed (w ++ cs)) = (words (w ++ cs)).map decomposed := by
  induction cs generalizing w with
  | nil => rw [List.append_nil, words_decomposed_of_solid solid]
  | cons c cs ih =>
    cases blank : isBlank c with
    | true =>
      obtain ⟨d, part, apart, blankD, -⟩ := exists_isApart (not_isShown_of_isBlank blank)
      have rest := ih (w := []) (by simp)
      rw [List.nil_append] at rest
      rw [apart.decomposed_append_cons part, words_append_cons (blankD.trans blank),
        words_append_cons blank, List.map_append, words_decomposed_of_solid solid, rest]
    | false =>
      rw [List.append_cons]
      exact ih (List.forall_mem_append.2 ⟨solid, by simpa using blank⟩)

/-- The words of equivalent texts without their invisible marks are equivalent. -/
theorem composed_unwords_words_congr (equivalent : decomposed cs = decomposed ds) :
    composed (unwords (words (cs.filter (!isInvisible ·)))) =
      composed (unwords (words (ds.filter (!isInvisible ·)))) := by
  have words_filter (es : List Char) :
      decomposed (unwords (words (es.filter (!isInvisible ·)))) =
        unwords (words (sortMarks ((decomposed es).filter (!isInvisible ·)))) := by
    have wordwise := words_decomposed_append (w := []) (by simp) (es.filter (!isInvisible ·))
    rw [List.nil_append, decomposed_filter] at wordwise
    rw [decomposed_unwords, wordwise]
  rw [composed_eq_iff, words_filter, equivalent, words_filter]

/-- An invisible mark does not count for the normal form of the normal form. -/
theorem normalChars_normalChars_insert {c : Char} (invisible : isInvisible c = true)
    (cs ds : List Char) : normalChars (normalChars (cs ++ c :: ds)) =
      normalChars (normalChars (cs ++ ds)) := by
  have equivalent := decomposed_lowerChars_congr (decomposed_composed_append cs ds)
  rw [normalChars_normalChars, normalChars_normalChars, normalChars_insert invisible,
    normalChars_eq_filter_lowerChars, composed_unwords_words_congr equivalent]

/-- Nor does case. -/
theorem normalChars_normalChars_lowerChars (cs : List Char) :
    normalChars (normalChars (lowerChars cs)) = normalChars (normalChars cs) := by
  rw [normalChars_normalChars, normalChars_normalChars, normalChars_lowerChars,
    normalChars_eq_filter_lowerChars,
    composed_unwords_words_congr (decomposed_composed_lowerChars cs)]

/-- An invisible mark counts for the normal form of a text exactly if something in lower case
composes across it, and case exactly if a text that is composed and lowered is another one when it
is lowered first.  Neither of them counts when the normal form is normalized again. -/
theorem normalize_edited (s t : String) (c : Char) :
    (isInvisible c = true →
      (normalize (s ++ c.toString ++ t) = normalize (s ++ t) ↔
        lowerChars (composed s.toList ++ composed t.toList) =
          lowerChars (composed (s.toList ++ t.toList))) ∧
      normalize (normalize (s ++ c.toString ++ t)) = normalize (normalize (s ++ t))) ∧
    (normalize (lower s) = normalize s ↔
      composed (lowerChars s.toList) = lowerChars (composed s.toList)) ∧
    normalize (normalize (lower s)) = normalize (normalize s) := by
  have text : (s ++ c.toString ++ t).toList = s.toList ++ c :: t.toList := by simp
  simp only [normalize, lower, String.ofList_inj, String.toList_ofList, text, String.toList_append]
  refine ⟨fun invisible => ?_, normalChars_lowerChars_iff _, normalChars_normalChars_lowerChars _⟩
  exact ⟨normalChars_insert_iff invisible _ _, normalChars_normalChars_insert invisible _ _⟩

/-- A zero width space between two words of a name does not count, and neither do its capitals. -/
theorem normalize_edited_game :
    isInvisible '\u200b' = true ∧ normalize "mega\u200bsena" = normalize "megasena" ∧
      normalize (lower "MEGA Sena") = normalize "MEGA Sena" :=
  ⟨by decide, ((normalize_edited "mega" "sena" '\u200b').1 (by decide)).1.2 (by decide +kernel),
    (normalize_edited "MEGA Sena" "" '\u200b').2.1.2 (by decide +kernel)⟩

/-- A zero width space counts between a letter and its accent, and a capital counts if only its
lower case composes with the accent behind it. -/
theorem not_normalize_edited :
    (¬ ∀ (s t : String) (c : Char), isInvisible c = true →
      normalize (s ++ c.toString ++ t) = normalize (s ++ t)) ∧
    ¬ ∀ s : String, normalize (lower s) = normalize s := by
  constructor
  · intro claim
    exact absurd (claim "a" "\u0303" '\u200b' (by decide)) (by decide +kernel)
  · intro claim
    exact absurd (claim "J\u030c") (by decide +kernel)

end KnowledgeGraph.Text

import KnowledgeGraph.Proofs.Text.Casing
import KnowledgeGraph.Proofs.Text.Words
import KnowledgeGraph.Text.Normal

/-!
# The normal form, word by word

A blank takes no part in composing and lowering: it composes with nothing, no mark moves past it,
and it ends a word for the final `Σ` as the end of the text does.  So the words before a blank and
those after it have their normal forms apart (`normalWords_append_cons`), although the text is read
as words only in the last step.

* A text has the normal form of its trimmed form (`normalize_trim`).
* It makes no difference how many blanks stand between words.
* A normal form is a line of words without invisible marks, in lower case (`IsNormal`).
-/

namespace KnowledgeGraph.Text

open Character

/-- The words of the normal form of a text. -/
def normalWords (cs : List Char) : List (List Char) :=
  words (lowerChars ((composed cs).filter (!isInvisible ·)))

theorem toList_normalize (s : String) : (normalize s).toList = normalChars s.toList :=
  String.toList_ofList

theorem normalChars_eq (cs : List Char) : normalChars cs = unwords (normalWords cs) := rfl

variable {b : Char}

/-- The words before a blank and those after it are put into normal form apart. -/
theorem normalWords_append_cons (h : isBlank b = true) (cs ds : List Char) :
    normalWords (cs ++ b :: ds) = normalWords cs ++ normalWords ds := by
  obtain ⟨b', part, apart, blank, invisible⟩ := exists_isApart (not_isShown_of_isBlank h)
  rw [h] at blank
  have visible : isInvisible b' = false := by
    cases invisible' : isInvisible b' with
    | false => rfl
    | true => rw [not_isBlank_of_isInvisible invisible'] at blank; cases blank
  rw [normalWords, apart.composed_append_cons part, List.filter_append,
    List.filter_cons_of_pos (by simp [visible]), (endsWord_of_isBlank blank).lowerChars_append_cons,
    words_append_cons blank, normalWords, normalWords]

/-! ## Blanks that do not count -/

theorem normalChars_cons (h : isBlank b = true) (cs : List Char) :
    normalChars (b :: cs) = normalChars cs := by
  have apart := normalWords_append_cons h [] cs
  rw [List.nil_append] at apart
  rw [normalChars_eq, apart]
  rfl

theorem normalChars_append_singleton (h : isBlank b = true) (cs : List Char) :
    normalChars (cs ++ [b]) = normalChars cs := by
  rw [normalChars_eq, normalWords_append_cons h]
  exact congrArg unwords (List.append_nil _)

/-- Blanks around a text do not change its normal form. -/
theorem normalChars_between {before after : List Char} (hb : ∀ b ∈ before, isBlank b = true)
    (ha : ∀ b ∈ after, isBlank b = true) (cs : List Char) :
    normalChars (before ++ cs ++ after) = normalChars cs := by
  induction before with
  | nil =>
    induction after generalizing cs with
    | nil => simp
    | cons b after ih =>
      have ⟨blank, blanks⟩ := List.forall_mem_cons.1 ha
      rw [List.append_cons, List.nil_append]
      exact (ih blanks _).trans (normalChars_append_singleton blank cs)
  | cons b before ih =>
    have ⟨blank, blanks⟩ := List.forall_mem_cons.1 hb
    rw [List.cons_append, List.cons_append, normalChars_cons blank, ih blanks]

/-- A text has the normal form of its trimmed form. -/
theorem normalize_trim (s : String) : normalize (trim s) = normalize s := by
  obtain ⟨before, after, eq, hb, ha⟩ := exists_blanks_trimChars s.toList
  have same := normalChars_between hb ha (trimChars s.toList)
  rw [← eq] at same
  rw [normalize, trim, String.toList_ofList, ← same, normalize]

/-- So does the text of an optional field, if it has one. -/
theorem normalize_of_presence? {s label : String} (h : presence? s = some label) :
    normalize label = normalize s := by
  rw [presence?] at h
  split at h
  · cases h
  · cases h
    exact normalize_trim s

/-- A text with a normal form that is not empty has something left when it is trimmed, and that has
the same normal form. -/
theorem map_normalize_presence? {s : String} (h : normalize s ≠ "") :
    (presence? s).map normalize = some (normalize s) := by
  cases left : presence? s with
  | some label => rw [Option.map_some, normalize_of_presence? left]
  | none =>
    have blank : trim s = "" := by simpa [presence?] using left
    rw [← normalize_trim, blank] at h
    exact absurd (by decide +kernel) h

/-- A run of spaces separates words as one space does. -/
theorem normalWords_replicate (n : Nat) (cs ds : List Char) :
    normalWords (cs ++ List.replicate (n + 1) ' ' ++ ds) = normalWords cs ++ normalWords ds := by
  induction n generalizing cs with
  | zero =>
    rw [List.replicate_one, List.append_assoc, List.singleton_append,
      normalWords_append_cons (by decide)]
  | succ n ih =>
    rw [List.replicate_succ, List.append_cons, ih, normalWords_append_cons (by decide)]
    exact congrArg (· ++ normalWords ds) (List.append_nil _)

/-- A text with one space for each run of spaces. -/
def squeezeSpaces : List Char → List Char
  | [] => []
  | c :: cs => if c = ' ' ∧ cs.head? = some ' ' then squeezeSpaces cs else c :: squeezeSpaces cs

theorem normalWords_squeezeSpaces (cs ds : List Char) :
    normalWords (cs ++ squeezeSpaces ds) = normalWords (cs ++ ds) := by
  induction ds generalizing cs with
  | nil => rfl
  | cons d ds ih =>
    rw [squeezeSpaces]
    split
    · next run =>
      obtain ⟨rfl, more⟩ := run
      obtain ⟨rest, rfl⟩ := List.head?_eq_some_iff.1 more
      have space : isBlank ' ' = true := by decide
      rw [ih, normalWords_append_cons space, normalWords_append_cons space,
        ← List.nil_append (' ' :: rest), normalWords_append_cons space]
      rfl
    · rw [List.append_cons, ih, List.append_assoc, List.singleton_append]

/-! ## The shape of normal forms -/

/-- What texts in normal form look like. -/
structure IsNormal (s : String) : Prop where
  /-- They are words joined by single spaces, or empty. -/
  line : ∃ ws, s.toList = unwords ws ∧ ∀ w ∈ ws, IsWord w
  /-- They have no other blanks than spaces. -/
  spaces : ∀ c ∈ s.toList, isBlank c = true → c = ' '
  /-- They have no invisible marks. -/
  visible : ∀ c ∈ s.toList, isInvisible c = false
  /-- They are in lower case. -/
  lowered : lower s = s

theorem isWord_of_mem_normalWords {w cs : List Char} (h : w ∈ normalWords cs) : IsWord w :=
  isWord_of_mem_words h

/-- The characters of normal words are visible and in lower case. -/
theorem of_mem_normalWords {w cs : List Char} (h : w ∈ normalWords cs) :
    ∀ c ∈ w, isInvisible c = false ∧ isLower c = true := by
  intro c within
  have mem := mem_of_mem_words h within
  refine ⟨?_, isLower_of_mem_lowerAfter mem⟩
  rw [lowerChars, ← filter_lowerAfter rfl] at mem
  simpa using (List.mem_filter.1 mem).2

/-- A character of a normal form is a space or a shown character in lower case. -/
theorem of_mem_normalChars {cs : List Char} {c : Char} (h : c ∈ normalChars cs) :
    c = ' ' ∨ isShown c = true ∧ isLower c = true := by
  refine (mem_unwords h).imp_right ?_
  rintro ⟨w, mem, within⟩
  have ⟨visible, lower⟩ := of_mem_normalWords mem c within
  have solid := (isWord_of_mem_normalWords mem).solid c within
  exact ⟨by simp [isShown, solid, visible], lower⟩

theorem isLower_of_mem_normalChars {cs : List Char} {c : Char} (h : c ∈ normalChars cs) :
    isLower c = true := by
  rcases of_mem_normalChars h with rfl | ⟨-, lower⟩
  · exact isLower_of_not_isShown (by decide)
  · exact lower

theorem isNormal_normalize (s : String) : IsNormal (normalize s) where
  line := ⟨normalWords s.toList, by rw [toList_normalize, normalChars_eq],
    fun _ mem => isWord_of_mem_normalWords mem⟩
  spaces c mem blank := by
    rw [toList_normalize] at mem
    rcases of_mem_normalChars mem with space | ⟨shown, -⟩
    · exact space
    · rw [not_isBlank_of_isShown shown] at blank
      cases blank
  visible c mem := by
    rw [toList_normalize] at mem
    rcases of_mem_normalChars mem with rfl | ⟨shown, -⟩
    · decide
    · exact not_isInvisible_of_isShown shown
  lowered := by
    rw [lower, toList_normalize, lowerChars,
      lowerAfter_eq_self fun _ mem => isLower_of_mem_normalChars mem, normalize]

/-- A normal form is a line of words without invisible marks, in lower case.  It is the normal form
of the text without the blanks at its ends, with one space for a run of spaces, and with one space
for each of them. -/
theorem isNormal_normalize_respaced (s : String) :
    IsNormal (normalize s) ∧ normalize (trim s) = normalize s ∧
      (∀ (t : String) (n : Nat), normalize (s ++ String.ofList (List.replicate (n + 1) ' ') ++ t) =
        normalize (s ++ " " ++ t)) ∧
      normalize (String.ofList (squeezeSpaces (trimChars s.toList))) = normalize s := by
  refine ⟨isNormal_normalize s, normalize_trim s, fun t n => ?_, ?_⟩
  · have one : " ".toList = List.replicate (0 + 1) ' ' := by decide
    simp only [normalize, normalChars_eq, String.toList_append, String.toList_ofList, one,
      normalWords_replicate]
  · have squeezed := normalWords_squeezeSpaces [] (trimChars s.toList)
    rw [List.nil_append, List.nil_append] at squeezed
    rw [← normalize_trim s, normalize, normalize, trim, String.toList_ofList,
      String.toList_ofList, normalChars_eq, squeezed, normalChars_eq]

end KnowledgeGraph.Text

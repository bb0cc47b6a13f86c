import Mathlib.Data.List.DropRight
import Mathlib.Data.List.TakeWhile
import KnowledgeGraph.Text.Words

/-!
# Blanks at the ends of a text

Trimming leaves a text that neither begins nor ends with a blank as it is (`trimChars_eq_self`).
Blanks are no part of words (`words_append_cons`), and words that are joined are read back
(`words_unwords`).
-/

namespace KnowledgeGraph.Text

open Character (isBlank)

/-! ## Trimming -/

theorem dropBlanks_eq_self {cs : List Char} (h : ∀ c ∈ cs.head?, isBlank c = false) :
    dropBlanks cs = cs := by
  cases cs with
  | nil => rfl
  | cons c cs => simp [dropBlanks, h c rfl]

theorem trimChars_eq_self {cs : List Char} (first : ∀ c ∈ cs.head?, isBlank c = false)
    (last : ∀ c ∈ cs.getLast?, isBlank c = false) : trimChars cs = cs := by
  rw [trimChars, dropBlanks_eq_self first, dropBlanks_eq_self, List.reverse_reverse]
  rw [List.head?_reverse]
  exact last

/-- A text is its trimmed form between blanks. -/
theorem exists_blanks_trimChars (cs : List Char) :
    ∃ before after, cs = before ++ trimChars cs ++ after ∧
      (∀ b ∈ before, isBlank b = true) ∧ ∀ b ∈ after, isBlank b = true := by
  have split (ds : List Char) : ds = ds.takeWhile isBlank ++ dropBlanks ds :=
    List.takeWhile_append_dropWhile.symm
  have blank (ds : List Char) : ∀ b ∈ ds.takeWhile isBlank, isBlank b = true :=
    List.all_eq_true.1 (List.all_takeWhile (l := ds))
  refine ⟨cs.takeWhile isBlank, ((dropBlanks cs).reverse.takeWhile isBlank).reverse, ?_,
    blank cs, fun b mem => blank _ b (List.mem_reverse.1 mem)⟩
  rw [List.append_assoc, trimChars, ← List.reverse_append, ← split, List.reverse_reverse, ← split]

/-- Nothing is left to trim of a trimmed text. -/
theorem trimChars_trimChars (cs : List Char) : trimChars (trimChars cs) = trimChars cs := by
  have first : ∀ c ∈ (trimChars cs).head?, isBlank c = false := by
    -- A trimmed text begins as it does before its end is trimmed.
    obtain ⟨rest, eq⟩ := List.rdropWhile_prefix isBlank (l := dropBlanks cs)
    intro c head
    have begins : (dropBlanks cs).head? = some c := by
      rw [← eq, List.head?_append]
      exact Option.or_eq_some_iff.2 (.inl head)
    have solid := List.head?_dropWhile_not isBlank cs
    rw [← dropBlanks, begins] at solid
    simpa using solid
  rw [trimChars, dropBlanks_eq_self first]
  exact List.rdropWhile_idempotent isBlank (dropBlanks cs)

/-- What is left of a text stays as it is. -/
theorem presence?_of_presence? {s t : String} (h : presence? s = some t) :
    presence? t = some t := by
  have trimmed : t = trim s := by
    rw [presence?] at h
    split at h
    · cases h
    · exact (Option.some.inj h).symm
  rw [presence?] at h ⊢
  have same : trim t = trim s := by
    rw [trimmed, trim, trim, String.toList_ofList, trimChars_trimChars]
  rw [same]
  exact h

/-- What is left of a text is not blank. -/
theorem isSome_presence?_of_presence? {s t : String} (h : presence? s = some t) :
    (presence? t).isSome = true := by
  rw [presence?_of_presence? h]
  rfl

/-! ## Words -/

theorem stretches_ne_nil (isSeparator : Char → Bool) (cs : List Char) :
    stretches isSeparator cs ≠ [] := by
  cases cs with
  | nil => simp [stretches]
  | cons c cs =>
    rw [stretches]
    split
    · simp
    · split <;> simp

/-- A separator ends one stretch and begins another. -/
theorem stretches_append_cons {isSeparator : Char → Bool} {b : Char} (h : isSeparator b = true)
    (xs ys : List Char) : stretches isSeparator (xs ++ b :: ys) =
      stretches isSeparator xs ++ stretches isSeparator ys := by
  induction xs with
  | nil => simp [stretches, h]
  | cons x xs ih =>
    rw [List.cons_append, stretches, stretches, ih]
    split
    · rfl
    · cases first : stretches isSeparator xs with
      | nil => exact absurd first (stretches_ne_nil _ _)
      | cons w ws => rfl

/-- A separator is no part of a piece, and sets the pieces before it apart from those after it. -/
theorem pieces_append_cons {isSeparator : Char → Bool} {b : Char} (h : isSeparator b = true)
    (xs ys : List Char) :
    pieces isSeparator (xs ++ b :: ys) = pieces isSeparator xs ++ pieces isSeparator ys := by
  rw [pieces, stretches_append_cons h, List.filter_append]
  rfl

/-- A blank is no part of a word, and separates the words before it from those after it. -/
theorem words_append_cons {b : Char} (h : isBlank b = true) (xs ys : List Char) :
    words (xs ++ b :: ys) = words xs ++ words ys :=
  pieces_append_cons h xs ys

theorem words_cons {b : Char} (h : isBlank b = true) (cs : List Char) :
    words (b :: cs) = words cs :=
  words_append_cons h [] cs

/-- The characters that stand between blanks: some, and none of them blank. -/
structure IsWord (w : List Char) : Prop where
  /-- There are some. -/
  filled : w ≠ []
  /-- None of them is blank. -/
  solid : ∀ c ∈ w, isBlank c = false

/-- A stretch has no separator, and only characters of the text. -/
theorem of_mem_stretches {isSeparator : Char → Bool} {w cs : List Char}
    (h : w ∈ stretches isSeparator cs) : ∀ c ∈ w, isSeparator c = false ∧ c ∈ cs := by
  induction cs generalizing w with
  | nil =>
    obtain rfl := List.mem_singleton.1 h
    simp
  | cons d ds ih =>
    have later {v : List Char} (mem : v ∈ stretches isSeparator ds) :
        ∀ c ∈ v, isSeparator c = false ∧ c ∈ d :: ds :=
      fun c within => (ih mem c within).imp_right (List.mem_cons_of_mem d)
    rw [stretches] at h
    split at h
    · rcases List.mem_cons.1 h with rfl | mem
      · simp
      · exact later mem
    · next letter =>
      have first : isSeparator d = false := by simpa using letter
      split at h
      · obtain rfl := List.mem_singleton.1 h
        simp [first]
      · next v vs eq =>
        rw [eq] at later
        rcases List.mem_cons.1 h with rfl | mem
        · exact List.forall_mem_cons.2 ⟨⟨first, List.mem_cons_self⟩, later List.mem_cons_self⟩
        · exact later (List.mem_cons_of_mem v mem)

/-- A piece is not empty, and has no separator. -/
theorem of_mem_pieces {isSeparator : Char → Bool} {w cs : List Char}
    (h : w ∈ pieces isSeparator cs) : w ≠ [] ∧ ∀ c ∈ w, isSeparator c = false ∧ c ∈ cs := by
  obtain ⟨mem, filled⟩ := List.mem_filter.1 h
  exact ⟨by simpa using filled, of_mem_stretches mem⟩

theorem isWord_of_mem_words {w cs : List Char} (h : w ∈ words cs) : IsWord w := by
  obtain ⟨filled, within⟩ := of_mem_pieces h
  exact ⟨filled, fun c mem => (within c mem).1⟩

theorem mem_of_mem_words {w cs : List Char} {c : Char} (h : w ∈ words cs) (mem : c ∈ w) :
    c ∈ cs :=
  ((of_mem_pieces h).2 c mem).2

/-- A text that is not empty and has no separator is its only piece. -/
theorem pieces_of_solid {isSeparator : Char → Bool} {w : List Char} (filled : w ≠ [])
    (solid : ∀ c ∈ w, isSeparator c = false) : pieces isSeparator w = [w] := by
  have one : stretches isSeparator w = [w] := by
    clear filled
    induction w with
    | nil => rfl
    | cons c cs ih =>
      obtain ⟨first, rest⟩ := List.forall_mem_cons.1 solid
      rw [stretches, first, ih rest]
      rfl
  rw [pieces, one]
  simp [filled]

/-- A word is its only word. -/
theorem IsWord.words_eq {w : List Char} (h : IsWord w) : words w = [w] :=
  pieces_of_solid h.filled h.solid

/-! ## Lines of words -/

theorem unwords_cons_cons (w v : List Char) (ws : List (List Char)) :
    unwords (w :: v :: ws) = w ++ ' ' :: unwords (v :: ws) := by
  rw [unwords, List.intercalate_cons_cons, List.append_assoc, List.singleton_append, unwords]

theorem unwords_singleton (w : List Char) : unwords [w] = w := List.intercalate_singleton

/-- Joined pieces have nothing but their own characters and what they are joined by. -/
theorem mem_intercalate {b c : Char} {ws : List (List Char)} (h : c ∈ [b].intercalate ws) :
    c = b ∨ ∃ w ∈ ws, c ∈ w := by
  induction ws with
  | nil => simp at h
  | cons w ws ih =>
    cases ws with
    | nil => exact .inr ⟨w, List.mem_cons_self, by rwa [List.intercalate_singleton] at h⟩
    | cons v ws =>
      rw [List.intercalate_cons_cons, List.append_assoc, List.singleton_append, List.mem_append,
        List.mem_cons] at h
      rcases h with here | joint | rest
      · exact .inr ⟨w, List.mem_cons_self, here⟩
      · exact .inl joint
      · refine (ih rest).imp_right ?_
        rintro ⟨u, mem, within⟩
        exact ⟨u, List.mem_cons_of_mem w mem, within⟩

/-- A line has nothing but its words and spaces. -/
theorem mem_unwords {ws : List (List Char)} {c : Char} (h : c ∈ unwords ws) :
    c = ' ' ∨ ∃ w ∈ ws, c ∈ w :=
  mem_intercalate h

/-- What is done to a text apart before and after a space is done to each word of a line. -/
theorem map_unwords {f : List Char → List Char} (empty : f [] = [])
    (apart : ∀ cs ds, f (cs ++ ' ' :: ds) = f cs ++ ' ' :: f ds) (ws : List (List Char)) :
    f (unwords ws) = unwords (ws.map f) := by
  induction ws with
  | nil => exact empty
  | cons w ws ih =>
    cases ws with
    | nil => rw [unwords_singleton, List.map_singleton, unwords_singleton]
    | cons v ws =>
      rw [unwords_cons_cons, apart, ih]
      exact (unwords_cons_cons _ _ _).symm

/-- Pieces that are joined by a separator are read back. -/
theorem pieces_intercalate {isSeparator : Char → Bool} {b : Char} (separates : isSeparator b = true)
    {ws : List (List Char)} (h : ∀ w ∈ ws, w ≠ [] ∧ ∀ c ∈ w, isSeparator c = false) :
    pieces isSeparator ([b].intercalate ws) = ws := by
  induction ws with
  | nil => rfl
  | cons w ws ih =>
    obtain ⟨⟨filled, solid⟩, rest⟩ := List.forall_mem_cons.1 h
    cases ws with
    | nil => rw [List.intercalate_singleton, pieces_of_solid filled solid]
    | cons v ws =>
      rw [List.intercalate_cons_cons, List.append_assoc, List.singleton_append,
        pieces_append_cons separates, pieces_of_solid filled solid, ih rest, List.singleton_append]

/-- The words of a line are read back. -/
theorem words_unwords {ws : List (List Char)} (h : ∀ w ∈ ws, IsWord w) :
    words (unwords ws) = ws :=
  pieces_intercalate (by decide) fun w mem => ⟨(h w mem).filled, (h w mem).solid⟩

theorem flatten_stretches (isSeparator : Char → Bool) (cs : List Char) :
    (stretches isSeparator cs).flatten = cs.filter (!isSeparator ·) := by
  induction cs with
  | nil => rfl
  | cons c cs ih =>
    rw [stretches]
    split
    · next separates =>
      rw [List.flatten_cons, ih, List.filter_cons_of_neg (by simp [separates])]
      rfl
    · next letter =>
      rw [List.filter_cons_of_pos (by simpa using letter), ← ih]
      cases stretches isSeparator cs <;> rfl

theorem filter_unwords {ws : List (List Char)} (h : ∀ w ∈ ws, IsWord w) :
    (unwords ws).filter (!isBlank ·) = ws.flatten := by
  induction ws with
  | nil => rfl
  | cons w ws ih =>
    obtain ⟨first, rest⟩ := List.forall_mem_cons.1 h
    have solid : w.filter (!isBlank ·) = w :=
      List.filter_eq_self.2 fun c mem => by simp [first.solid c mem]
    cases ws with
    | nil => rw [unwords_singleton, solid]; exact (List.append_nil w).symm
    | cons v ws =>
      rw [unwords_cons_cons, List.filter_append, solid, List.filter_cons_of_neg (by decide),
        ih rest]
      rfl

/-- The words of a text have all of its characters that are not blank. -/
theorem filter_unwords_words (cs : List Char) :
    (unwords (words cs)).filter (!isBlank ·) = cs.filter (!isBlank ·) := by
  rw [filter_unwords fun _ mem => isWord_of_mem_words mem, words, pieces,
    List.flatten_filter_not_isEmpty, flatten_stretches]

end KnowledgeGraph.Text

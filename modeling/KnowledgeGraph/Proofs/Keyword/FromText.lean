import KnowledgeGraph.Proofs.Keyword.Collection
import KnowledgeGraph.Proofs.Keyword.Scans

/-!
# Keywords of a text

The candidates of a text come in four streams (`candidates_eq`).  Two of them are what patterns
find, and two are read off the words of the text.  A candidate adds its normal form, if that is not
empty and not there already, as an entry of a post does (`map_foldl_takeUp`).  So taking up all of
them, one after the other, leaves their distinct normal forms, up to the limit.  A candidate beyond
the limit leaves no trace.  Hence a lower limit gives the beginning of what a higher one gives.
-/

namespace KnowledgeGraph.Keyword

open Text (normalChars unwords words)

/-! ## Candidates -/

/-- What stands between quotes. -/
def quotedTexts (cs : List Char) : List (List Char) := (quotePattern.found cs).map inside

/-- The capitalized words that stand in a row, without the function words before the others. -/
def nameTexts (cs : List Char) : List (List Char) :=
  ((namePattern.found cs).map fun m => dropFunctionWords (words m)).filter (!·.isEmpty)
    |>.map unwords

/-- The pairs of words that stand side by side and both have content. -/
def pairTexts (cs : List Char) : List (List Char) :=
  let ws := plainWords cs
  ((ws.zip ws.tail).filter fun (v, w) => hasContent 5 v && hasContent 5 w).map fun (v, w) =>
    unwords [v, w]

/-- The words that have content. -/
def wordTexts (cs : List Char) : List (List Char) := (plainWords cs).filter (hasContent 4)

/-- The candidates of a text, those that come first having priority. -/
def streams (text : String) : List String :=
  let cs := text.toList
  (quotedTexts cs ++ nameTexts cs ++ pairTexts cs ++ wordTexts cs).map String.ofList

theorem wordPairs_eq (ws : List (List Char)) :
    wordPairs ws = ((ws.zip ws.tail).filter fun (v, w) => hasContent 5 v && hasContent 5 w).map
      fun (v, w) => [v, w] := by
  induction ws with
  | nil => rfl
  | cons v ws ih =>
    cases ws with
    | nil => rfl
    | cons w ws =>
      rw [wordPairs, ih, List.tail_cons, List.tail_cons, List.zip_cons_cons, List.filter_cons]
      split <;> rfl

theorem candidates_eq (cs : List Char) :
    candidates cs = quotedTexts cs ++ nameTexts cs ++ pairTexts cs ++ wordTexts cs := by
  have pairs : (wordPairs (plainWords cs)).map unwords = pairTexts cs := by
    rw [wordPairs_eq, List.map_map]
    rfl
  rw [candidates, quotedSpans_eq, names_eq, pairs, List.map_map]
  rfl

/-! ## Taking up -/

theorem ofList_mem_map {w : List Char} {kept : List (List Char)} :
    String.ofList w ∈ kept.map String.ofList ↔ w ∈ kept :=
  List.mem_map_of_injective fun _ _ eq => String.ofList_injective eq

/-- A candidate adds its normal form, if there is room for it, it is not empty and it is new. -/
theorem map_takeUp (limit : Nat) (kept : List (List Char)) (c : List Char) :
    (takeUp limit kept c).map String.ofList =
      if (kept.map String.ofList).length < limit ∧ Text.normalize (String.ofList c) ≠ "" ∧
          Text.normalize (String.ofList c) ∉ kept.map String.ofList then
        kept.map String.ofList ++ [Text.normalize (String.ofList c)]
      else kept.map String.ofList := by
  have form : Text.normalize (String.ofList c) = String.ofList (normalChars c) := by
    rw [Text.normalize, String.toList_ofList]
  have filled : String.ofList (normalChars c) ≠ "" ↔ normalChars c ≠ [] := by simp
  simp only [form, List.length_map, filled, ofList_mem_map, takeUp]
  split <;> simp

/-- So does an entry of a post. -/
theorem map_normal_collectEntry (limit : Nat) (slots : List Slot) (e : String) :
    (collectEntry limit slots e).map (·.normal) =
      if (slots.map (·.normal)).length < limit ∧ Text.normalize e ≠ "" ∧
          Text.normalize e ∉ slots.map (·.normal) then
        slots.map (·.normal) ++ [Text.normalize e]
      else slots.map (·.normal) := by
  have known : (slots.any fun s => s.normal == Text.normalize e) = true ↔
      Text.normalize e ∈ slots.map (·.normal) := by
    simp [List.any_eq_true, List.mem_map]
  simp only [collectEntry, String.isEmpty_iff, known, List.length_map]
  split
  · next empty => rw [if_neg fun new => new.2.1 empty]
  · next filled =>
    split
    · next seen => rw [map_normal_countOccurrence, if_neg fun new => new.2.2 seen]
    · next unseen =>
      split
      · next room =>
        rw [if_pos ⟨room, filled, unseen⟩, List.map_append]
        rfl
      · next full => rw [if_neg fun new => full new.1]

/-- Candidates are taken up as the entries of a post are collected. -/
theorem map_foldl_takeUp (limit : Nat) (candidates : List (List Char)) :
    (candidates.foldl (takeUp limit) []).map String.ofList =
      (collect limit (candidates.map String.ofList)).map (·.normal) := by
  induction candidates using List.reverseRecOn with
  | nil => rfl
  | append_singleton candidates c ih =>
    rw [List.foldl_concat, map_takeUp, ih, List.map_append, List.map_singleton, collect_concat,
      map_normal_collectEntry]

/-- The keywords of a text are the distinct normal forms of its candidates, up to the limit. -/
theorem fromText_eq (text : String) (limit : Nat) :
    fromText text limit = (normalForms (streams text)).take limit := by
  rw [fromText, map_foldl_takeUp, (isKept_collect _ _).normals, candidates_eq]
  rfl

/-- The keywords of a text are normal forms, and not empty. -/
theorem exists_of_mem_fromText {text e : String} {limit : Nat} (h : e ∈ fromText text limit) :
    ∃ s, e = Text.normalize s ∧ e ≠ "" := by
  rw [fromText_eq] at h
  obtain ⟨filled, s, -, rfl⟩ := mem_normalForms.1 (List.mem_of_mem_take h)
  exact ⟨s, rfl, filled⟩

/-- The keywords of a text are a list by priority, without repeats and without empty ones.  They are
the first occurrences among the normal forms of quoted spans, names, pairs of words and single
words, in this order, up to the limit.  So a lower limit gives the beginning of the list. -/
theorem fromText_byPriority (text : String) (limit : Nat) :
    fromText text limit = (normalForms (streams text)).take limit ∧
      (∀ more, limit ≤ more → fromText text limit = (fromText text more).take limit) ∧
      (fromText text limit).Nodup ∧ "" ∉ fromText text limit := by
  refine ⟨fromText_eq text limit, fun more le => ?_, ?_, fun empty => ?_⟩
  · rw [fromText_eq, fromText_eq, List.take_take, Nat.min_eq_left le]
  · rw [fromText_eq]
    exact (nodup_distinct _).sublist (List.take_sublist _ _)
  · obtain ⟨s, -, filled⟩ := exists_of_mem_fromText empty
    exact filled rfl

/-- A text with candidates of every kind, some of which come again as other ones. -/
theorem fromText_byPriority_jackpot :
    let text := "The \"second chance\" of Mega  Millions, a JACKPOT winner: jackpot odds"
    3 ≤ 5 ∧ fromText text 5 =
        ["second chance", "mega millions", "jackpot", "jackpot winner", "winner jackpot"] ∧
      fromText text 3 = ["second chance", "mega millions", "jackpot"] := by
  intro text
  have all : fromText text 5 =
      ["second chance", "mega millions", "jackpot", "jackpot winner", "winner jackpot"] := by
    decide +kernel
  have ⟨_, first, _⟩ := fromText_byPriority text 3
  refine ⟨by decide, all, ?_⟩
  rw [first 5 (by decide), all]
  rfl

end KnowledgeGraph.Keyword

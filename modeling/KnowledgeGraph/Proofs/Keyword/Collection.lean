import Mathlib.Algebra.BigOperators.Group.List.Basic
import Mathlib.Algebra.GroupWithZero.Nat
import Mathlib.Data.List.Forall2
import Mathlib.Data.List.Induction
import Mathlib.Data.List.Nodup
import KnowledgeGraph.Distinct
import KnowledgeGraph.Keyword.Collection

/-!
# The kept keywords of a post

What a post keeps of its entries is said without going through them (`IsKept`): the first distinct
normal forms up to a limit, each of them with all of its entries.  One more entry is skipped, counted,
added or refused, and each of these keeps it that way (`IsKept.collectEntry`), so it holds of what is
collected from all entries (`isKept_collect`).  In particular, the normal forms do not repeat
(`nodup_collect`), and no entry is counted twice (`IsKept.sum_occurrences_le`).

Nothing but the normal forms of the entries decides what is kept and how often it occurs
(`collect_respelled`).  Their spelling only shows in the surface of a keyword.
-/

namespace KnowledgeGraph.Keyword

/-! ## What entries make of a normal form -/

/-- The normal forms of entries that are not empty, each where it occurs first. -/
def normalForms (entries : List String) : List String :=
  distinct ((entries.map Text.normalize).filter (· ≠ ""))

theorem mem_normalForms {entries : List String} {n : String} :
    n ∈ normalForms entries ↔ n ≠ "" ∧ ∃ e ∈ entries, Text.normalize e = n := by
  simp [normalForms, and_comm]

/-- One more entry adds its normal form, if that is not empty and not there already. -/
theorem normalForms_concat (entries : List String) (e : String) :
    normalForms (entries ++ [e]) =
      if Text.normalize e = "" ∨ Text.normalize e ∈ normalForms entries then normalForms entries
      else normalForms entries ++ [Text.normalize e] := by
  by_cases empty : Text.normalize e = ""
  · simp [normalForms, empty]
  · simp [normalForms, empty, distinct_concat]

/-- A keyword that stands for all entries of its normal form, in the spelling of the first one. -/
structure Slot.IsFrom (entries : List String) (s : Slot) : Prop where
  /-- It has the spelling of the first entry, trimmed. -/
  surface : (entries.find? (Text.normalize · = s.normal)).map Text.trim = some s.surface
  /-- It occurs as often as there are entries. -/
  occurrences : s.occurrences = entries.countP (Text.normalize · = s.normal)

namespace Slot.IsFrom

variable {entries : List String} {e : String} {s : Slot}

/-- Its spelling stays, whatever comes after the first entry. -/
theorem surface_append (h : s.IsFrom entries) (e : String) :
    ((entries ++ [e]).find? (Text.normalize · = s.normal)).map Text.trim = some s.surface := by
  obtain ⟨first, found, spelled⟩ := Option.map_eq_some_iff.1 h.surface
  rw [List.find?_append, found, Option.some_or, Option.map_some, spelled]

/-- An entry of another normal form makes no difference. -/
theorem other (h : s.IsFrom entries) (different : Text.normalize e ≠ s.normal) :
    s.IsFrom (entries ++ [e]) where
  surface := h.surface_append e
  occurrences := by
    rw [List.countP_append, ← h.occurrences]
    simp [different]

/-- An entry of the same normal form is one more occurrence. -/
theorem again (h : s.IsFrom entries) (same : Text.normalize e = s.normal) :
    Slot.IsFrom (entries ++ [e]) { s with occurrences := s.occurrences + 1 } where
  surface := h.surface_append e
  occurrences := by
    rw [List.countP_append, ← h.occurrences]
    simp [same]

/-- The first entry of its normal form occurs once. -/
theorem first (new : ∀ e' ∈ entries, Text.normalize e' ≠ Text.normalize e) :
    Slot.IsFrom (entries ++ [e]) ⟨Text.trim e, Text.normalize e, 1⟩ where
  surface := by
    have none : entries.find? (Text.normalize · = Text.normalize e) = none := by
      simpa [List.find?_eq_none] using new
    rw [List.find?_append, none]
    simp
  occurrences := by
    have zero : entries.countP (Text.normalize · = Text.normalize e) = 0 := by
      simpa [List.countP_eq_zero] using new
    rw [List.countP_append, zero]
    simp

/-- It occurs at all. -/
theorem one_le_occurrences (h : s.IsFrom entries) : 1 ≤ s.occurrences := by
  obtain ⟨e, found, -⟩ := Option.map_eq_some_iff.1 h.surface
  rw [h.occurrences]
  have same : Text.normalize e = s.normal := by simpa using List.find?_some found
  exact List.countP_pos_iff.2 ⟨e, List.mem_of_find?_eq_some found, by simp [same]⟩

end Slot.IsFrom

/-! ## One entry after the other -/

/-- Counting an occurrence changes no normal form. -/
theorem map_normal_countOccurrence (normal : String) (slots : List Slot) :
    (countOccurrence normal slots).map (·.normal) = slots.map (·.normal) := by
  induction slots with
  | nil => rfl
  | cons s slots ih =>
    rw [countOccurrence]
    split
    · rfl
    · simp [ih]

/-- Where normal forms do not repeat, an occurrence is counted for the keyword that has the normal
form, and the others stay as they are. -/
theorem of_mem_countOccurrence {normal : String} {slots : List Slot}
    (nodup : (slots.map (·.normal)).Nodup) {s : Slot} (h : s ∈ countOccurrence normal slots) :
    s ∈ slots ∧ s.normal ≠ normal ∨
      ∃ t ∈ slots, t.normal = normal ∧ s = { t with occurrences := t.occurrences + 1 } := by
  induction slots with
  | nil => cases h
  | cons t slots ih =>
    obtain ⟨new, tail⟩ := List.nodup_cons.1 nodup
    rw [countOccurrence] at h
    split at h
    · next same =>
      rcases List.mem_cons.1 h with rfl | later
      · exact .inr ⟨t, List.mem_cons_self, same, rfl⟩
      · refine .inl ⟨List.mem_cons_of_mem t later, fun again => new ?_⟩
        exact List.mem_map.2 ⟨s, later, again.trans same.symm⟩
    · next different =>
      rcases List.mem_cons.1 h with rfl | later
      · exact .inl ⟨List.mem_cons_self, different⟩
      · rcases ih tail later with ⟨mem, other⟩ | ⟨u, mem, same, rfl⟩
        · exact .inl ⟨List.mem_cons_of_mem t mem, other⟩
        · exact .inr ⟨u, List.mem_cons_of_mem t mem, same, rfl⟩

/-- What is kept of entries: the first distinct normal forms up to a limit, in order, each with all
of its entries. -/
structure IsKept (limit : Nat) (entries : List String) (slots : List Slot) : Prop where
  /-- The normal forms are the first ones. -/
  normals : slots.map (·.normal) = (normalForms entries).take limit
  /-- Every keyword stands for all entries of its normal form. -/
  isFrom : ∀ s ∈ slots, s.IsFrom entries

namespace IsKept

variable {limit : Nat} {entries : List String} {slots : List Slot}

theorem nodup (h : IsKept limit entries slots) : (slots.map (·.normal)).Nodup := by
  rw [h.normals]
  exact (nodup_distinct _).sublist (List.take_sublist _ _)

theorem mem_normalForms_of_mem (h : IsKept limit entries slots) {s : Slot} (mem : s ∈ slots) :
    s.normal ∈ normalForms entries := by
  have within := List.mem_map_of_mem (f := Slot.normal) mem
  rw [h.normals] at within
  exact List.mem_of_mem_take within

theorem length_eq (h : IsKept limit entries slots) :
    slots.length = min limit (normalForms entries).length := by
  simpa using congrArg List.length h.normals

variable {e : String}

/-- An entry of another normal form than all that are kept changes none of them. -/
theorem isFrom_other (h : IsKept limit entries slots)
    (different : ∀ s ∈ slots, Text.normalize e ≠ s.normal) :
    ∀ s ∈ slots, s.IsFrom (entries ++ [e]) :=
  fun s mem => (h.isFrom s mem).other (different s mem)

/-- An entry without a normal form changes nothing. -/
theorem skip (h : IsKept limit entries slots) (empty : Text.normalize e = "") :
    IsKept limit (entries ++ [e]) slots where
  normals := by rw [h.normals, normalForms_concat, if_pos (.inl empty)]
  isFrom := h.isFrom_other fun s mem same =>
    (mem_normalForms.1 (h.mem_normalForms_of_mem mem)).1 (same.symm.trans empty)

/-- An entry of a normal form that is kept is counted. -/
theorem count (h : IsKept limit entries slots) {t : Slot} (mem : t ∈ slots)
    (same : t.normal = Text.normalize e) :
    IsKept limit (entries ++ [e]) (countOccurrence (Text.normalize e) slots) where
  normals := by
    have seen : Text.normalize e ∈ normalForms entries := same ▸ h.mem_normalForms_of_mem mem
    rw [map_normal_countOccurrence, h.normals, normalForms_concat, if_pos (.inr seen)]
  isFrom s mem := by
    rcases of_mem_countOccurrence h.nodup mem with ⟨old, other⟩ | ⟨u, old, same, rfl⟩
    · exact (h.isFrom s old).other other.symm
    · exact (h.isFrom u old).again same.symm

/-- An entry of a new normal form is kept if there is room. -/
theorem add (h : IsKept limit entries slots) (filled : Text.normalize e ≠ "")
    (different : ∀ s ∈ slots, Text.normalize e ≠ s.normal) (room : slots.length < limit) :
    IsKept limit (entries ++ [e]) (slots ++ [⟨Text.trim e, Text.normalize e, 1⟩]) := by
  -- As there is room, every normal form so far is kept, and the one of the entry is new.
  have size := h.length_eq
  have all : (normalForms entries).take limit = normalForms entries :=
    List.take_of_length_le (by omega)
  have new : Text.normalize e ∉ normalForms entries := by
    rw [← all, ← h.normals]
    intro seen
    obtain ⟨s, mem, same⟩ := List.mem_map.1 seen
    exact different s mem same.symm
  refine ⟨?_, fun s mem => ?_⟩
  · rw [normalForms_concat, if_neg (by simp [filled, new]), List.map_append, h.normals, all,
      List.take_of_length_le (by rw [List.length_append, List.length_singleton]; omega)]
    rfl
  · rcases List.mem_append.1 mem with old | last
    · exact h.isFrom_other different s old
    · rw [List.mem_singleton.1 last]
      exact .first fun e' mem' same => new (mem_normalForms.2 ⟨filled, e', mem', same⟩)

/-- An entry of a new normal form is not kept if there is no room. -/
theorem refuse (h : IsKept limit entries slots)
    (different : ∀ s ∈ slots, Text.normalize e ≠ s.normal) (full : ¬ slots.length < limit) :
    IsKept limit (entries ++ [e]) slots where
  normals := by
    have size := h.length_eq
    rw [h.normals, normalForms_concat]
    split
    · rfl
    · rw [List.take_append_of_le_length (by omega)]
  isFrom := h.isFrom_other different

/-- Taking up one entry keeps what is kept. -/
theorem collectEntry (h : IsKept limit entries slots) (e : String) :
    IsKept limit (entries ++ [e]) (Keyword.collectEntry limit slots e) := by
  simp only [Keyword.collectEntry, String.isEmpty_iff]
  split
  · next empty => exact h.skip empty
  · next filled =>
    split
    · next known =>
      obtain ⟨t, mem, same⟩ := List.any_eq_true.1 known
      exact h.count mem (beq_iff_eq.1 same)
    · next unknown =>
      have different : ∀ s ∈ slots, Text.normalize e ≠ s.normal := by
        intro s mem same
        exact unknown (List.any_eq_true.2 ⟨s, mem, by simp [same]⟩)
      split
      · next room => exact h.add filled different room
      · next full => exact h.refuse different full

end IsKept

/-! ## All entries -/

theorem collect_concat (limit : Nat) (entries : List String) (e : String) :
    collect limit (entries ++ [e]) = collectEntry limit (collect limit entries) e :=
  List.foldl_concat ..

/-- The first distinct normal forms of a list of entries are kept, each with all of its entries. -/
theorem isKept_collect (limit : Nat) (entries : List String) :
    IsKept limit entries (collect limit entries) := by
  induction entries using List.reverseRecOn with
  | nil => exact ⟨by simp [collect, normalForms, distinct], by simp [collect]⟩
  | append_singleton entries e ih =>
    rw [collect_concat]
    exact ih.collectEntry e

/-- The normal forms of kept keywords do not repeat. -/
theorem nodup_collect (limit : Nat) (entries : List String) :
    ((collect limit entries).map (·.normal)).Nodup :=
  (isKept_collect limit entries).nodup

/-- Elements are counted once at most, if keys do not repeat. -/
theorem sum_countP_le {α κ : Type} [DecidableEq κ] {keys : List κ} (nodup : keys.Nodup)
    (key : α → κ) (as : List α) :
    (keys.map fun k => as.countP (key · = k)).sum ≤ as.length := by
  induction keys generalizing as with
  | nil => simp
  | cons k ks ih =>
    obtain ⟨new, tail⟩ := List.nodup_cons.1 nodup
    -- The elements of the first key are not counted under the later ones.
    have apart : (ks.map fun j => as.countP (key · = j)) =
        ks.map fun j => (as.filter (key · ≠ k)).countP (key · = j) := by
      refine List.map_congr_left fun j mem => ?_
      rw [List.countP_filter]
      refine List.countP_congr fun a _ => ?_
      have different : j ≠ k := fun same => new (same ▸ mem)
      simp only [ne_eq, decide_not, Bool.and_eq_true, decide_eq_true_eq, Bool.not_eq_true',
        decide_eq_false_iff_not]
      exact ⟨fun same => ⟨same, same ▸ different⟩, And.left⟩
    calc ((k :: ks).map fun j => as.countP (key · = j)).sum
        = as.countP (key · = k) +
            (ks.map fun j => (as.filter (key · ≠ k)).countP (key · = j)).sum := by
          rw [List.map_cons, List.sum_cons, apart]
      _ ≤ as.countP (key · = k) + (as.filter (key · ≠ k)).length :=
          Nat.add_le_add_left (ih tail _) _
      _ = as.length := by
          rw [← List.countP_eq_length_filter]
          simpa using (List.length_eq_countP_add_countP (fun a => decide (key a = k)) (l := as)).symm

/-- Kept keywords occur at most as often as there are entries. -/
theorem IsKept.sum_occurrences_le {limit : Nat} {entries : List String} {slots : List Slot}
    (h : IsKept limit entries slots) : (slots.map (·.occurrences)).sum ≤ entries.length := by
  have counts : slots.map (·.occurrences) =
      (slots.map (·.normal)).map fun n => entries.countP (Text.normalize · = n) := by
    rw [List.map_map]
    exact List.map_congr_left fun s mem => (h.isFrom s mem).occurrences
  rw [counts]
  exact sum_countP_le h.nodup Text.normalize entries

/-- A post keeps the first distinct keywords of its entries, as many as the settings say.  The
entries are its keywords, or the ones in its text if it has none and the settings say so. -/
theorem isKept_ofPost (settings : Settings) (post : Post) :
    let entries := if settings.fillKeywords = true ∧ post.keywords = []
      then fromText post.text settings.keywordLimit else post.keywords
    IsKept settings.keywordLimit entries (ofPost settings post) ∧
      (∀ s ∈ ofPost settings post, 1 ≤ s.occurrences) ∧
      ((ofPost settings post).map (·.occurrences)).sum ≤ entries.length := by
  intro given
  have taken : entries settings post = given := by
    simp [entries, given]
  have kept : IsKept settings.keywordLimit given (ofPost settings post) := by
    rw [ofPost, taken]
    exact isKept_collect _ _
  exact ⟨kept, fun s mem => (kept.isFrom s mem).one_le_occurrences, kept.sum_occurrences_le⟩

/-- A keyword that comes again after the limit was reached is counted, and a new one is not kept. -/
theorem isKept_ofPost_lottery :
    let post : Post := { keywords := ["Lottery", " ", "jackpot", "odds", " LOTTERY"] }
    let settings : Settings := { keptKeywords := 2 }
    ofPost settings post = [⟨"Lottery", "lottery", 2⟩, ⟨"jackpot", "jackpot", 1⟩] ∧
      IsKept 2 post.keywords (ofPost settings post) ∧
      (∀ s ∈ ofPost settings post, 1 ≤ s.occurrences) ∧
      ((ofPost settings post).map (·.occurrences)).sum ≤ 5 := by
  intro post settings
  have kept : ofPost settings post = [⟨"Lottery", "lottery", 2⟩, ⟨"jackpot", "jackpot", 1⟩] := by
    decide +kernel
  exact ⟨kept, isKept_ofPost settings post⟩

/-! ## Spellings -/

/-- One keyword in two spellings, which occurs equally often. -/
structure Slot.IsRespelling (s t : Slot) : Prop where
  /-- The normal form is the same. -/
  normal : s.normal = t.normal
  /-- The number of occurrences is the same. -/
  occurrences : s.occurrences = t.occurrences

variable {ss ts : List Slot}

theorem any_normal_respelled (h : List.Forall₂ Slot.IsRespelling ss ts) (normal : String) :
    (ss.any fun s => s.normal == normal) = ts.any fun s => s.normal == normal := by
  induction h with
  | nil => rfl
  | cons same _ ih => rw [List.any_cons, List.any_cons, same.normal, ih]

theorem countOccurrence_respelled (h : List.Forall₂ Slot.IsRespelling ss ts) (normal : String) :
    List.Forall₂ Slot.IsRespelling (countOccurrence normal ss) (countOccurrence normal ts) := by
  induction h with
  | nil => exact .nil
  | cons same rest ih =>
    rw [countOccurrence, countOccurrence, same.normal]
    split
    · exact .cons ⟨rfl, congrArg (· + 1) same.occurrences⟩ rest
    · exact .cons same ih

/-- An entry is taken up alike in every spelling. -/
theorem collectEntry_respelled (limit : Nat) (h : List.Forall₂ Slot.IsRespelling ss ts)
    {entry entry' : String} (same : Text.normalize entry = Text.normalize entry') :
    List.Forall₂ Slot.IsRespelling (collectEntry limit ss entry)
      (collectEntry limit ts entry') := by
  simp only [collectEntry, same, any_normal_respelled h, h.length_eq]
  split
  · exact h
  · split
    · exact countOccurrence_respelled h _
    · split
      · exact List.rel_append h (.cons ⟨rfl, rfl⟩ .nil)
      · exact h

/-- What is kept of two lists of entries differs in spelling only, if the entries do. -/
theorem collect_respelled (limit : Nat) {entries entries' : List String}
    (h : List.Forall₂ (fun e e' => Text.normalize e = Text.normalize e') entries entries') :
    List.Forall₂ Slot.IsRespelling (collect limit entries) (collect limit entries') := by
  have run : ∀ ss ts : List Slot, List.Forall₂ Slot.IsRespelling ss ts →
      List.Forall₂ Slot.IsRespelling (entries.foldl (collectEntry limit) ss)
        (entries'.foldl (collectEntry limit) ts) := by
    induction h with
    | nil =>
      intro ss ts kept
      exact kept
    | cons same _ ih =>
      intro ss ts kept
      rw [List.foldl_cons, List.foldl_cons]
      exact ih _ _ (collectEntry_respelled limit kept same)
  exact run [] [] .nil

end KnowledgeGraph.Keyword

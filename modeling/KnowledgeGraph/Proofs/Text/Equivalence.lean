import Mathlib.Data.List.Chain
import KnowledgeGraph.Proofs.Character.Letters

/-!
# Equivalent texts

Two texts are equivalent when they have one decomposed form, that is when they differ only in how
their accented letters are written.  A text is equivalent to its composed form
(`decomposed_composed`), so two texts are equivalent exactly if their composed forms are equal
(`composed_eq_iff`).

Sorting marks is an insertion sort, and everything about it follows from one fact: two marks of
different classes may be inserted in either order (`insertMark_comm`).
-/

namespace KnowledgeGraph.Text

open Character

variable {a b c d : Char}

/-! ## Sorting marks -/

/-- Marks of different classes are inserted in either order. -/
theorem insertMark_comm (hc : 0 < combiningClass c) (hd : 0 < combiningClass d)
    (ne : combiningClass c ≠ combiningClass d) (cs : List Char) :
    insertMark c (insertMark d cs) = insertMark d (insertMark c cs) := by
  induction cs with
  | nil => grind [insertMark]
  | cons e es ih => grind [insertMark]

/-- Inserting a mark into a text and sorting both with what follows is sorting the mark last. -/
theorem sortMarks_insertMark_append (c : Char) (cs ds : List Char) :
    sortMarks (insertMark c cs ++ ds) = insertMark c (sortMarks (cs ++ ds)) := by
  induction cs with
  | nil => rfl
  | cons e es ih =>
    rw [insertMark]
    split
    · next passes =>
      rw [List.cons_append, sortMarks, ih, List.cons_append, sortMarks,
        insertMark_comm passes.1 (by omega) (by omega)]
    · rfl

theorem sortMarks_sortMarks_append (cs ds : List Char) :
    sortMarks (sortMarks cs ++ ds) = sortMarks (cs ++ ds) := by
  induction cs with
  | nil => rfl
  | cons c cs ih => rw [sortMarks, sortMarks_insertMark_append, ih, List.cons_append, sortMarks]

/-- A sorted text is sorted. -/
theorem sortMarks_sortMarks (cs : List Char) : sortMarks (sortMarks cs) = sortMarks cs := by
  have sorted := sortMarks_sortMarks_append cs []
  rwa [List.append_nil, List.append_nil] at sorted

theorem sortMarks_append_sortMarks (cs ds : List Char) :
    sortMarks (cs ++ sortMarks ds) = sortMarks (cs ++ ds) := by
  induction cs with
  | nil => exact sortMarks_sortMarks ds
  | cons c cs ih => rw [List.cons_append, sortMarks, ih, List.cons_append, sortMarks]

theorem mem_insertMark {cs : List Char} : d ∈ insertMark c cs ↔ d = c ∨ d ∈ cs := by
  induction cs with
  | nil => simp [insertMark]
  | cons e es ih =>
    rw [insertMark]
    split
    · rw [List.mem_cons, ih, List.mem_cons, or_left_comm]
    · rw [List.mem_cons]

theorem mem_sortMarks {cs : List Char} : d ∈ sortMarks cs ↔ d ∈ cs := by
  induction cs with
  | nil => rfl
  | cons c cs ih => rw [sortMarks, mem_insertMark, ih, List.mem_cons]

/-- A mark moves past marks of lower classes. -/
theorem sortMarks_move {marks : List Char}
    (lower : ∀ m ∈ marks, 0 < combiningClass m ∧ combiningClass m < combiningClass c)
    (cs ds : List Char) :
    sortMarks (cs ++ c :: (marks ++ ds)) = sortMarks (cs ++ (marks ++ c :: ds)) := by
  have moved : sortMarks (c :: (marks ++ ds)) = sortMarks (marks ++ c :: ds) := by
    induction marks with
    | nil => rfl
    | cons m marks ih =>
      obtain ⟨here, others⟩ := List.forall_mem_cons.1 lower
      rw [List.cons_append, List.cons_append, sortMarks, sortMarks, sortMarks, ← ih others,
        sortMarks, insertMark_comm (by omega) here.1 (by omega)]
  rw [← sortMarks_append_sortMarks, moved, sortMarks_append_sortMarks]

/-- Whether a character may follow another one in a sorted text. -/
def MayFollow (c d : Char) : Prop := combiningClass d = 0 ∨ combiningClass c ≤ combiningClass d

/-- What a text begins with when a character is sorted into it: that character, or the mark that was
there before. -/
theorem head?_insertMark (c : Char) (cs : List Char) :
    (insertMark c cs).head? = some c ∨
      ∃ d, combiningClass d ≠ 0 ∧ cs.head? = some d ∧ (insertMark c cs).head? = some d := by
  cases cs with
  | nil => exact .inl rfl
  | cons e es =>
    rw [insertMark]
    split
    · next passes => exact .inr ⟨e, by omega, rfl, rfl⟩
    · exact .inl rfl

theorem isChain_insertMark {cs : List Char} (h : cs.IsChain MayFollow) :
    (insertMark c cs).IsChain MayFollow := by
  induction cs with
  | nil => exact .singleton c
  | cons e es ih =>
    have ⟨first, rest⟩ := List.isChain_cons.1 h
    rw [insertMark]
    split
    · next passes =>
      refine List.isChain_cons.2 ⟨fun x head => ?_, ih rest⟩
      rcases head?_insertMark c es with eq | ⟨d, -, before, eq⟩
      · rw [eq, Option.mem_some_iff] at head
        exact .inr (head ▸ Nat.le_of_lt passes.2)
      · rw [eq, ← before] at head
        exact first x head
    · next stays =>
      refine List.isChain_cons_cons.2 ⟨?_, h⟩
      rw [MayFollow]
      omega

theorem isChain_sortMarks (cs : List Char) : (sortMarks cs).IsChain MayFollow := by
  induction cs with
  | nil => exact .nil
  | cons c cs ih => exact isChain_insertMark ih

/-! ## Decomposed texts -/

theorem mem_decomposed {cs : List Char} (h : d ∈ decomposed cs) : ∃ c ∈ cs, d ∈ decomposition c :=
  List.mem_flatMap.1 (mem_sortMarks.1 h)

/-- The characters of a decomposed text do not decompose. -/
theorem decomposition_of_mem_decomposed {cs : List Char} (h : d ∈ decomposed cs) :
    decomposition d = [d] := by
  obtain ⟨c, -, part⟩ := mem_decomposed h
  exact decomposition_of_mem part

/-- A text of characters that do not decompose is only sorted. -/
theorem decomposed_eq_sortMarks {cs : List Char} (h : ∀ c ∈ cs, decomposition c = [c]) :
    decomposed cs = sortMarks cs := by
  rw [decomposed, flatMap_eq_self h]

theorem sortMarks_decomposed (cs : List Char) : sortMarks (decomposed cs) = decomposed cs :=
  sortMarks_sortMarks _

theorem decomposed_append (cs ds : List Char) :
    decomposed (cs ++ ds) = sortMarks (decomposed cs ++ decomposed ds) := by
  rw [decomposed, List.flatMap_append, decomposed, decomposed, sortMarks_sortMarks_append,
    sortMarks_append_sortMarks]

theorem decomposed_cons (c : Char) (cs : List Char) :
    decomposed (c :: cs) = sortMarks (decomposition c ++ decomposed cs) := by
  rw [decomposed, List.flatMap_cons, ← sortMarks_append_sortMarks, decomposed]

theorem decomposed_cons_of_alone (alone : decomposition c = [c]) (cs : List Char) :
    decomposed (c :: cs) = insertMark c (decomposed cs) := by
  rw [decomposed, List.flatMap_cons, alone, List.singleton_append, sortMarks, decomposed]

/-! ## Composed texts -/

/-- What is left of the marks after a starter, the last one first, and the text after them: all of
them sorted. -/
structure IsPending (marks cs : List Char) : Prop where
  /-- All marks are marks. -/
  isMark : ∀ m ∈ marks, 0 < combiningClass m
  /-- No mark has a greater class than one after it. -/
  descending : marks.Pairwise fun m n => combiningClass n ≤ combiningClass m
  /-- The text after the marks is sorted. -/
  sorted : cs.IsChain MayFollow
  /-- The text may stand behind each of the marks. -/
  follows : ∀ m ∈ marks, ∀ c ∈ cs.head?, MayFollow m c

namespace IsPending

variable {marks cs : List Char}

/-- A mark that nothing blocks has a greater class than all of those before it. -/
theorem lt_of_not_isBlocked (h : IsPending marks cs) (free : isBlocked marks c = false) :
    ∀ m ∈ marks, 0 < combiningClass m ∧ combiningClass m < combiningClass c := by
  intro m mem
  refine ⟨h.isMark m mem, ?_⟩
  cases marks with
  | nil => cases mem
  | cons last marks =>
    have top : combiningClass last < combiningClass c := by simpa [isBlocked] using free
    rcases List.mem_cons.1 mem with rfl | mem
    · exact top
    · exact Nat.lt_of_le_of_lt ((List.pairwise_cons.1 h.descending).1 m mem) top

/-- A character that joins the starter leaves the rest sorted. -/
theorem joined (h : IsPending marks (c :: cs)) (free : isBlocked marks c = false) :
    IsPending marks cs := by
  have ⟨next, sorted⟩ := List.isChain_cons.1 h.sorted
  refine ⟨h.isMark, h.descending, sorted, fun m mem d head => ?_⟩
  have above := (h.lt_of_not_isBlocked free m mem).2
  exact (next d head).imp id (Nat.le_trans (Nat.le_of_lt above))

/-- So does a mark that is left standing. -/
theorem standing (h : IsPending marks (c :: cs)) (mark : isStarter c = false) :
    IsPending (c :: marks) cs := by
  have ⟨next, sorted⟩ := List.isChain_cons.1 h.sorted
  have isMark : combiningClass c ≠ 0 := by simpa [isStarter] using mark
  have below : ∀ m ∈ marks, combiningClass m ≤ combiningClass c :=
    fun m mem => (h.follows m mem c rfl).resolve_left isMark
  refine ⟨List.forall_mem_cons.2 ⟨by omega, h.isMark⟩,
    List.pairwise_cons.2 ⟨below, h.descending⟩, sorted,
    List.forall_mem_cons.2 ⟨next, fun m mem d head => ?_⟩⟩
  exact (next d head).imp id (Nat.le_trans (below m mem))

/-- A starter that is left standing begins anew. -/
theorem anew (h : IsPending marks (c :: cs)) : IsPending [] cs :=
  ⟨by simp, .nil, (List.isChain_cons.1 h.sorted).2, by simp⟩

end IsPending

/-- Composing what follows a starter keeps its parts. -/
theorem decomposed_composeAfter {starter : Char} {marks cs : List Char} (h : IsPending marks cs)
    (parts : ∀ c ∈ marks.reverse ++ cs, decomposition c = [c]) :
    decomposed (composeAfter starter marks cs) =
      sortMarks (decomposition starter ++ (marks.reverse ++ cs)) := by
  induction cs generalizing starter marks with
  | nil =>
    rw [List.append_nil] at parts
    rw [composeAfter, decomposed_cons, decomposed_eq_sortMarks parts, List.append_nil,
      sortMarks_append_sortMarks]
  | cons c cs ih =>
    obtain ⟨partsMarks, partsRest⟩ := List.forall_mem_append.1 parts
    obtain ⟨part, partsRest⟩ := List.forall_mem_cons.1 partsRest
    rw [composeAfter]
    split
    · next joined joins =>
      cases free : isBlocked marks c with
      | true => simp [free] at joins
      | false =>
        have pair : composite? starter c = some joined := by simpa [free] using joins
        have below (m : Char) (mem : m ∈ marks.reverse) :=
          h.lt_of_not_isBlocked free m (List.mem_reverse.1 mem)
        rw [ih (h.joined free) (List.forall_mem_append.2 ⟨partsMarks, partsRest⟩),
          (composes_of_composite? pair).parts, List.append_assoc, List.singleton_append,
          sortMarks_move below]
    · split
      · rw [List.cons_append, decomposed_cons, decomposed_append,
          decomposed_eq_sortMarks partsMarks, ih h.anew partsRest, part]
        simp only [sortMarks_sortMarks_append, sortMarks_append_sortMarks]
        rfl
      · next mark =>
        rw [ih (h.standing (by simpa using mark)) (by simpa using parts)]
        simp

theorem decomposed_compose {cs : List Char} (sorted : cs.IsChain MayFollow)
    (parts : ∀ c ∈ cs, decomposition c = [c]) : decomposed (compose cs) = sortMarks cs := by
  induction cs with
  | nil => rfl
  | cons c cs ih =>
    obtain ⟨part, rest⟩ := List.forall_mem_cons.1 parts
    have chain := (List.isChain_cons.1 sorted).2
    rw [compose]
    split
    · rw [decomposed_composeAfter ⟨by simp, .nil, chain, by simp⟩ (by simpa using rest), part]
      rfl
    · rw [decomposed_cons, ih chain rest, part, sortMarks_append_sortMarks]
      rfl

/-- A text has the decomposed form of its composed form. -/
theorem decomposed_composed (cs : List Char) : decomposed (composed cs) = decomposed cs := by
  have sorted : (decomposed cs).IsChain MayFollow := isChain_sortMarks _
  rw [composed, decomposed_compose sorted fun c mem => decomposition_of_mem_decomposed mem,
    sortMarks_decomposed]

/-- Texts are equivalent exactly if their composed forms are equal. -/
theorem composed_eq_iff {cs ds : List Char} :
    composed cs = composed ds ↔ decomposed cs = decomposed ds := by
  constructor
  · intro h
    rw [← decomposed_composed cs, h, decomposed_composed]
  · intro h
    rw [composed, h, composed]

/-! ## Characters that keep apart -/

/-- Whether a character stands for itself among others: it does not decompose, it is no mark, and
it composes with nothing. -/
structure IsApart (b : Char) : Prop where
  /-- It does not decompose. -/
  alone : decomposition b = [b]
  /-- It is no mark. -/
  starter : combiningClass b = 0
  /-- Nothing before it takes it in. -/
  noSecond : ∀ a, composite? a b = none
  /-- It takes in nothing. -/
  noFirst : ∀ c, composite? b c = none

namespace IsApart

variable (hb : IsApart b)

include hb

theorem insertMark_eq_cons (cs : List Char) : insertMark b cs = b :: cs := by
  cases cs <;> simp [insertMark, hb.starter]

/-- No mark moves past it. -/
theorem insertMark_append_cons (c : Char) (cs ds : List Char) :
    insertMark c (cs ++ b :: ds) = insertMark c cs ++ b :: ds := by
  induction cs with
  | nil => simp [insertMark, hb.starter]
  | cons e es ih =>
    rw [List.cons_append, insertMark, insertMark, ih]
    split <;> rfl

theorem sortMarks_append_cons (cs ds : List Char) :
    sortMarks (cs ++ b :: ds) = sortMarks cs ++ b :: sortMarks ds := by
  induction cs with
  | nil => exact hb.insertMark_eq_cons _
  | cons c cs ih =>
    rw [List.cons_append, sortMarks, ih, hb.insertMark_append_cons, sortMarks]

/-- Nothing joins it, so what follows it is composed as if it stood alone. -/
theorem composeAfter_eq (marks cs : List Char) :
    composeAfter b marks cs = b :: marks.reverse ++ compose cs := by
  induction cs generalizing marks with
  | nil => simp [composeAfter, compose]
  | cons c cs ih =>
    have alone : (if isBlocked marks c then none else composite? b c) = none := by
      rw [hb.noFirst, ite_self]
    simp only [composeAfter, alone, compose]
    split
    · rfl
    · rw [ih]
      simp

theorem composeAfter_append_cons (starter : Char) (marks cs ds : List Char) :
    composeAfter starter marks (cs ++ b :: ds) =
      composeAfter starter marks cs ++ b :: compose ds := by
  induction cs generalizing starter marks with
  | nil =>
    have alone := hb.composeAfter_eq [] ds
    simpa [composeAfter, hb.noSecond, isStarter, hb.starter] using alone
  | cons c cs ih =>
    rw [List.cons_append, composeAfter, composeAfter]
    split
    · exact ih _ _
    · split
      · rw [ih, List.append_assoc]
      · exact ih _ _

theorem compose_append_cons (cs ds : List Char) :
    compose (cs ++ b :: ds) = compose cs ++ b :: compose ds := by
  induction cs with
  | nil =>
    have alone := hb.composeAfter_eq [] ds
    simpa [compose, isStarter, hb.starter] using alone
  | cons c cs ih =>
    rw [List.cons_append, compose, compose]
    split
    · exact hb.composeAfter_append_cons _ _ _ _
    · rw [ih, List.cons_append]

variable (part : decomposition c = [b])

include part

/-- A text is decomposed apart before and after a character that decomposes into this one. -/
theorem decomposed_append_cons (cs ds : List Char) :
    decomposed (cs ++ c :: ds) = decomposed cs ++ b :: decomposed ds := by
  rw [decomposed, List.flatMap_append, List.flatMap_cons, part, List.singleton_append,
    hb.sortMarks_append_cons, decomposed, decomposed]

/-- So is it composed. -/
theorem composed_append_cons (cs ds : List Char) :
    composed (cs ++ c :: ds) = composed cs ++ b :: composed ds := by
  rw [composed, hb.decomposed_append_cons part, hb.compose_append_cons, composed, composed]

end IsApart

/-- Characters that are not shown keep apart. -/
theorem isApart_of_not_isShown (hidden : isShown b = false) (alone : decomposition b = [b]) :
    IsApart b where
  alone := alone
  starter := by
    by_contra mark
    rw [(isMark_of_combiningClass mark).shown] at hidden
    cases hidden
  noSecond a := by
    cases joined : composite? a b with
    | none => rfl
    | some c =>
      rw [(composes_of_composite? joined).shown.2.1] at hidden
      cases hidden
  noFirst c := by
    cases joined : composite? b c with
    | none => rfl
    | some d =>
      rw [(composes_of_composite? joined).shown.1] at hidden
      cases hidden

/-- What a character that is not shown decomposes into keeps apart, and is blank or invisible as the
character is. -/
theorem exists_isApart (hidden : isShown c = false) : ∃ d, decomposition c = [d] ∧ IsApart d ∧
    isBlank d = isBlank c ∧ isInvisible d = isInvisible c := by
  obtain ⟨d, part, kind⟩ := decomposition_of_not_isShown hidden
  have mem : d ∈ decomposition c := by simp [part]
  refine ⟨d, part, isApart_of_not_isShown ?_ (decomposition_of_mem mem), kind⟩
  rw [isShown_of_mem_decomposition mem, hidden]

/-! ## The characters of a composed text -/

section Characters

variable {P : Char → Prop} {cs : List Char}

theorem forall_mem_composeAfter (join : ∀ {a b c}, composite? a b = some c → P a → P b → P c)
    {starter : Char} {marks : List Char} (first : P starter) (standing : ∀ c ∈ marks, P c)
    (rest : ∀ c ∈ cs, P c) : ∀ c ∈ composeAfter starter marks cs, P c := by
  induction cs generalizing starter marks with
  | nil => simpa [composeAfter] using ⟨first, standing⟩
  | cons d ds ih =>
    obtain ⟨next, rest⟩ := List.forall_mem_cons.1 rest
    rw [composeAfter]
    split
    · next joined joins =>
      have pair : composite? starter d = some joined := by
        split at joins
        · cases joins
        · exact joins
      exact ih (join pair first next) standing rest
    · split
      · refine List.forall_mem_append.2 ⟨?_, ih next (by simp) rest⟩
        simpa using ⟨first, standing⟩
      · exact ih first (List.forall_mem_cons.2 ⟨next, standing⟩) rest

/-- What composites inherit from their parts holds in a composed text. -/
theorem forall_mem_compose (join : ∀ {a b c}, composite? a b = some c → P a → P b → P c)
    (all : ∀ c ∈ cs, P c) : ∀ c ∈ compose cs, P c := by
  induction cs with
  | nil => simp [compose]
  | cons d ds ih =>
    obtain ⟨first, rest⟩ := List.forall_mem_cons.1 all
    rw [compose]
    split
    · exact forall_mem_composeAfter join first (by simp) rest
    · exact List.forall_mem_cons.2 ⟨first, ih rest⟩

theorem forall_mem_composed (part : ∀ {c d}, d ∈ decomposition c → P c → P d)
    (join : ∀ {a b c}, composite? a b = some c → P a → P b → P c) (all : ∀ c ∈ cs, P c) :
    ∀ c ∈ composed cs, P c := by
  refine forall_mem_compose join fun d mem => ?_
  obtain ⟨c, mem, isPart⟩ := mem_decomposed mem
  exact part isPart (all c mem)

end Characters

/-- The composed form of a text in lower case is in lower case. -/
theorem isLower_of_mem_composed {cs : List Char} (lower : ∀ c ∈ cs, isLower c = true) :
    ∀ c ∈ composed cs, isLower c = true :=
  forall_mem_composed isLower_of_mem_decomposition
    (fun joined first _ => (composes_of_composite? joined).lower first) lower

/-- The composed form of a text of shown characters has only shown ones. -/
theorem isShown_of_mem_composed {cs : List Char} (shown : ∀ c ∈ cs, isShown c = true) :
    ∀ c ∈ composed cs, isShown c = true :=
  forall_mem_composed (fun part whole => (isShown_of_mem_decomposition part).trans whole)
    (fun joined _ _ => (composes_of_composite? joined).shown.2.2) shown

/-! ## Telling equivalent texts apart -/

/-- Whether characters that are not shown stand for themselves.  In a composed text they do. -/
def HidesPlainly (cs : List Char) : Prop := ∀ c ∈ cs, isShown c = false → decomposition c = [c]

theorem hidesPlainly_composed (cs : List Char) : HidesPlainly (composed cs) :=
  forall_mem_compose (P := fun c => isShown c = false → decomposition c = [c])
    (fun joined _ _ hidden => by simp [(composes_of_composite? joined).shown.2.2] at hidden)
    fun _ mem _ => decomposition_of_mem_decomposed mem

theorem insertMark_inj {cs ds : List Char} (h : insertMark c cs = insertMark c ds) : cs = ds := by
  induction cs generalizing ds with
  | nil => cases ds <;> grind [insertMark]
  | cons e es ih => cases ds <;> grind [insertMark]

theorem sortMarks_append_inj (cs : List Char) {ds es : List Char}
    (h : sortMarks (cs ++ ds) = sortMarks (cs ++ es)) : sortMarks ds = sortMarks es := by
  induction cs with
  | nil => exact h
  | cons c cs ih => exact ih (insertMark_inj h)

/-- The decomposed form of a text that begins with a shown character begins with a shown one. -/
theorem exists_isShown_head?_decomposed (shown : isShown c = true) (cs : List Char) :
    ∃ d, (decomposed (c :: cs)).head? = some d ∧ isShown d = true := by
  obtain ⟨e, es, parts⟩ := List.exists_cons_of_ne_nil (decomposition_ne_nil c)
  have first : isShown e = true := by
    rw [isShown_of_mem_decomposition (parts ▸ List.mem_cons_self), shown]
  rw [decomposed_cons, parts, List.cons_append, sortMarks]
  rcases head?_insertMark e (sortMarks (es ++ decomposed cs)) with head | ⟨d, mark, -, head⟩
  · exact ⟨e, head, first⟩
  · exact ⟨d, head, (isMark_of_combiningClass mark).shown⟩

/-- A character that is not shown keeps its place in front of a decomposed text. -/
theorem decomposed_cons_of_not_isShown (hidden : isShown c = false)
    (alone : decomposition c = [c]) (cs : List Char) :
    decomposed (c :: cs) = c :: decomposed cs :=
  (isApart_of_not_isShown hidden alone).decomposed_append_cons alone [] cs

/-- So it is seen from the decomposed form whether the first character of a text is shown. -/
theorem decomposed_cons_ne (shown : isShown c = true) (hidden : isShown d = false)
    (alone : decomposition d = [d]) (cs ds : List Char) :
    decomposed (c :: cs) ≠ decomposed (d :: ds) := by
  intro equal
  obtain ⟨e, head, first⟩ := exists_isShown_head?_decomposed shown cs
  rw [equal, decomposed_cons_of_not_isShown hidden alone, List.head?_cons,
    Option.some.injEq] at head
  rw [head, first] at hidden
  cases hidden

theorem decomposed_cons_ne_nil (c : Char) (cs : List Char) : decomposed (c :: cs) ≠ [] := by
  obtain ⟨e, es, parts⟩ := List.exists_cons_of_ne_nil (decomposition_ne_nil c)
  have mem : e ∈ decomposed (c :: cs) := by
    rw [decomposed_cons, mem_sortMarks, parts]
    exact List.mem_cons_self
  exact List.ne_nil_of_mem mem

/-- Equivalent texts that agree in their shown characters are equal, if the other characters stand
for themselves. -/
theorem eq_of_decomposed_eq {cs ds : List Char} (equivalent : decomposed cs = decomposed ds)
    (agree : cs.filter isShown = ds.filter isShown) (hc : HidesPlainly cs) (hd : HidesPlainly ds) :
    cs = ds := by
  induction cs generalizing ds with
  | nil =>
    cases ds with
    | nil => rfl
    | cons d ds => exact absurd equivalent.symm (decomposed_cons_ne_nil d ds)
  | cons c cs ih =>
    cases ds with
    | nil => exact absurd equivalent (decomposed_cons_ne_nil c cs)
    | cons d ds =>
      obtain ⟨plainC, restC⟩ := List.forall_mem_cons.1 hc
      obtain ⟨plainD, restD⟩ := List.forall_mem_cons.1 hd
      cases shownC : isShown c with
      | true =>
        cases shownD : isShown d with
        | true =>
          simp only [List.filter_cons, shownC, shownD, if_true, List.cons.injEq] at agree
          obtain ⟨rfl, agree⟩ := agree
          rw [decomposed_cons, decomposed_cons] at equivalent
          have tails := sortMarks_append_inj _ equivalent
          rw [sortMarks_decomposed, sortMarks_decomposed] at tails
          rw [ih tails agree restC restD]
        | false => exact absurd equivalent (decomposed_cons_ne shownC shownD (plainD shownD) _ _)
      | false =>
        cases shownD : isShown d with
        | true =>
          exact absurd equivalent.symm (decomposed_cons_ne shownD shownC (plainC shownC) _ _)
        | false =>
          rw [decomposed_cons_of_not_isShown shownC (plainC shownC),
            decomposed_cons_of_not_isShown shownD (plainD shownD), List.cons.injEq] at equivalent
          obtain ⟨rfl, equivalent⟩ := equivalent
          simp only [List.filter_cons, shownC, Bool.false_eq_true, if_false] at agree
          rw [ih equivalent agree restC restD]

end KnowledgeGraph.Text

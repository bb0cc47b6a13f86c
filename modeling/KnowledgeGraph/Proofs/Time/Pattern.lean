import KnowledgeGraph.Time.Pattern

/-!
# What a pattern takes off a text

The slots of a pattern take digits, a year also takes a sign, and the gaps take blanks.  Every other
character is taken by a mark of its own.  So the part of a text that is read against a pattern
consists of the marks of the pattern and of such loose characters, in some order
(`readItems?_perm`).
-/

namespace KnowledgeGraph.Time

open Text (dropBlanks)

/-- The characters that the slots and gaps of a pattern may take. -/
def IsLoose (c : Char) : Prop :=
  c.isDigit = true ∨ Character.isBlank c = true ∨ c = '-' ∨ c = '+'

instance (c : Char) : Decidable (IsLoose c) := inferInstanceAs (Decidable (_ ∨ _))

/-- The marks of a pattern. -/
def marks (items : List Item) : List Char :=
  items.filterMap fun
    | .mark c => some c
    | _ => none

/-- Digits are taken from the front. -/
theorem readDigits?_split {width n : Nat} {cs rest : List Char}
    (h : readDigits? width cs = some (n, rest)) :
    ∃ ds, cs = ds ++ rest ∧ ds.all Char.isDigit = true := by
  have front : (cs.take width).takeWhile Char.isDigit <+: cs :=
    (List.takeWhile_prefix _).trans (List.take_prefix _ _)
  have digits := List.all_takeWhile (p := Char.isDigit) (l := cs.take width)
  rw [readDigits?] at h
  generalize (cs.take width).takeWhile Char.isDigit = ds at h front digits
  obtain ⟨tail, rfl⟩ := front
  split at h
  · cases h
  · rw [List.drop_left] at h
    cases h
    exact ⟨_, rfl, digits⟩

/-- A slot takes loose characters from the front. -/
theorem readPart?_split {part : Part} {n : Int} {cs rest : List Char}
    (h : readPart? part cs = some (n, rest)) :
    ∃ front, cs = front ++ rest ∧ ∀ c ∈ front, IsLoose c := by
  have digits {width : Nat} {f : Nat → Int} {cs : List Char}
      (h : (readDigits? width cs).map (fun x => (f x.1, x.2)) = some (n, rest)) :
      ∃ ds, cs = ds ++ rest ∧ ∀ c ∈ ds, IsLoose c := by
    obtain ⟨⟨m, tail⟩, read, eq⟩ := Option.map_eq_some_iff.1 h
    cases eq
    obtain ⟨ds, rfl, all⟩ := readDigits?_split read
    exact ⟨ds, rfl, fun c mem => .inl (List.all_eq_true.1 all c mem)⟩
  have signed {sign : Char} {cs : List Char} (loose : IsLoose sign)
      (h : ∃ ds, cs = ds ++ rest ∧ ∀ c ∈ ds, IsLoose c) :
      ∃ front, sign :: cs = front ++ rest ∧ ∀ c ∈ front, IsLoose c := by
    obtain ⟨ds, rfl, all⟩ := h
    exact ⟨sign :: ds, rfl, List.forall_mem_cons.2 ⟨loose, all⟩⟩
  cases part
  case year =>
    simp only [readPart?, readYear?, readAllDigits?] at h
    split at h
    · exact signed (.inr (.inr (.inl rfl))) (digits (f := fun n => -(n : Int)) h)
    · exact signed (.inr (.inr (.inr rfl))) (digits (f := fun n => (n : Int)) h)
    · exact digits (f := fun n => (n : Int)) h
  all_goals exact digits (f := fun n => (n : Int)) h

/-- Dropped blanks are loose. -/
theorem dropBlanks_split (cs : List Char) :
    ∃ front, cs = front ++ dropBlanks cs ∧ ∀ c ∈ front, IsLoose c :=
  ⟨cs.takeWhile Character.isBlank, List.takeWhile_append_dropWhile.symm,
    fun c mem => .inr (.inl (List.all_eq_true.1 List.all_takeWhile c mem))⟩

/-- A text that is read against a pattern has the marks of the pattern, and otherwise only loose
characters and what is left of it. -/
theorem readItems?_perm {items : List Item} {r q : Instant.Reading} {cs rest : List Char}
    (h : readItems? items r cs = some (q, rest)) :
    ∃ loose, (∀ c ∈ loose, IsLoose c) ∧ cs.Perm (marks items ++ (loose ++ rest)) := by
  induction items generalizing r cs with
  | nil =>
    cases h
    exact ⟨[], by simp, .refl _⟩
  | cons item items ih =>
    -- What an item takes joins what the items after it take.
    have joined {front tail : List Char} (taken : ∀ c ∈ front, IsLoose c)
        (h : ∃ loose, (∀ c ∈ loose, IsLoose c) ∧ tail.Perm (marks items ++ (loose ++ rest))) :
        ∃ loose, (∀ c ∈ loose, IsLoose c) ∧
          (front ++ tail).Perm (marks items ++ (loose ++ rest)) := by
      obtain ⟨loose, all, perm⟩ := h
      refine ⟨front ++ loose, List.forall_mem_append.2 ⟨taken, all⟩, ?_⟩
      rw [List.append_assoc]
      exact (perm.append_left front).trans (List.perm_append_comm_assoc _ _ _)
    cases item with
    | slot part =>
      rw [readItems?] at h
      split at h
      · next n tail read =>
        obtain ⟨blanks, split, blank⟩ := dropBlanks_split cs
        obtain ⟨front, digits, loose⟩ := readPart?_split read
        rw [split, digits]
        exact joined blank (joined loose (ih h))
      · cases h
    | mark c =>
      cases cs with
      | nil => cases h
      | cons d cs =>
        rw [readItems?] at h
        split at h
        · next eq =>
          obtain ⟨loose, all, perm⟩ := ih h
          exact ⟨loose, all, eq ▸ perm.cons d⟩
        · cases h
    | gap =>
      obtain ⟨blanks, split, blank⟩ := dropBlanks_split cs
      rw [split]
      exact joined blank (ih h)

/-- A text that a pattern reads has the marks of the pattern and otherwise only loose characters. -/
theorem readPattern?_perm {pattern : List Item} {r : Instant.Reading} {cs : List Char}
    (h : readPattern? pattern cs = some r) :
    ∃ loose, (∀ c ∈ loose, IsLoose c) ∧ cs.Perm (marks pattern ++ loose) := by
  rw [readPattern?] at h
  split at h
  · next read =>
    obtain ⟨loose, all, perm⟩ := readItems?_perm read
    exact ⟨loose, all, by simpa using perm⟩
  · cases h

/-- Characters that are not loose stand in a text as often as among the marks of its pattern. -/
theorem countP_of_readPattern? {p : Char → Bool} (solid : ∀ c, p c = true → ¬ IsLoose c)
    {pattern : List Item} {r : Instant.Reading} {cs : List Char}
    (h : readPattern? pattern cs = some r) : cs.countP p = (marks pattern).countP p := by
  obtain ⟨loose, all, perm⟩ := readPattern?_perm h
  have none : loose.countP p = 0 := List.countP_eq_zero.2 fun c mem has => solid c has (all c mem)
  rw [perm.countP_eq, List.countP_append, none, Nat.add_zero]

/-- A text has the marks of its pattern at least. -/
theorem le_countP_of_readPattern? (p : Char → Bool) {pattern : List Item} {r : Instant.Reading}
    {cs : List Char} (h : readPattern? pattern cs = some r) :
    (marks pattern).countP p ≤ cs.countP p := by
  obtain ⟨loose, -, perm⟩ := readPattern?_perm h
  rw [perm.countP_eq, List.countP_append]
  exact Nat.le_add_right _ _

end KnowledgeGraph.Time

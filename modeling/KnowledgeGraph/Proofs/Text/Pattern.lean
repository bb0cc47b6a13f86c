import KnowledgeGraph.Character.Word

/-!
# Patterns

A pattern matches a stretch of a text from a place in it.  The matches from one place are ordered by
preference (`Pattern.ends`): a repetition prefers to go on, and gives up its last turn if what comes
after it does not match then.  A text is searched from its front, at every place for the match that
is preferred there, and after a match from its end on (`Pattern.found`).

A repetition of one character goes over a whole run of such characters, if what comes after it
matches nowhere within the run (`flatMap_ends_run`).  Then no turn of it is ever given up, and a
scan that looks at every character once can find the same matches.
-/

namespace KnowledgeGraph.Text

open Character (isWord)

/-! ## Matches -/

/-- A place in a text. -/
structure Place where
  /-- The characters before the place, the last one first. -/
  before : List Char
  /-- The characters after the place. -/
  after : List Char

/-- Whether characters begin with one that belongs to a word. -/
def beginsWord (cs : List Char) : Bool := cs.head?.any isWord

/-- Whether a word begins or ends at a place. -/
def Place.isEdge (here : Place) : Bool := beginsWord here.before != beginsWord here.after

/-- A pattern. -/
inductive Pattern where
  /-- One character that passes a test. -/
  | one (test : Char → Bool)
  /-- Nothing, where a word begins or ends. -/
  | edge
  /-- One pattern and then another one. -/
  | next (p q : Pattern)
  /-- A pattern several times in a row: at least so many times, and at most so many, if there is a
  limit.  One time takes at least one character. -/
  | times (least : Nat) (most : Option Nat) (p : Pattern)

namespace Pattern

/-- The places where so many turns end. -/
def exactly (turn : Place → List Place) : Nat → Place → List Place
  | 0, here => [here]
  | n + 1, here => (turn here).flatMap (exactly turn n)

/-- The places where at most so many turns end, those of more turns first. -/
def upTo (turn : Place → List Place) : Nat → Place → List Place
  | 0, here => [here]
  | n + 1, here => (turn here).flatMap (upTo turn n) ++ [here]

/-- The places where the matches from a place end, the preferred ones first. -/
def ends : Pattern → Place → List Place
  | one _, ⟨_, []⟩ => []
  | one test, ⟨before, c :: after⟩ => if test c then [⟨c :: before, after⟩] else []
  | edge, here => if here.isEdge then [here] else []
  | next p q, here => (p.ends here).flatMap q.ends
  | times least most p, here => (exactly p.ends least here).flatMap fun there =>
      upTo p.ends (most.elim there.after.length (· - least)) there

/-- The matches in the rest of a text that do not overlap, the first one first.  `skip` says how
many characters belong to the last match before. -/
def foundAfter (p : Pattern) : Nat → List Char → List Char → List (List Char)
  | _, _, [] => []
  | skip + 1, before, c :: cs => p.foundAfter skip (c :: before) cs
  | 0, before, c :: cs =>
      match (p.ends ⟨before, c :: cs⟩).head? with
      | some there =>
          let taken := (c :: cs).length - there.after.length
          (c :: cs).take taken :: p.foundAfter (taken - 1) (c :: before) cs
      | none => p.foundAfter 0 (c :: before) cs

/-- The matches in a text that do not overlap, the first one first. -/
def found (p : Pattern) (text : List Char) : List (List Char) := p.foundAfter 0 [] text

/-! ## Runs -/

/-- A run of characters that pass a test, which does not go on behind it. -/
structure IsRun (test : Char → Bool) (run rest : List Char) : Prop where
  /-- All characters of the run pass. -/
  all : ∀ c ∈ run, test c = true
  /-- The character behind it, if there is one, does not. -/
  stop : ∀ c ∈ rest.head?, test c = false

/-- What is said of the places within a run and before its end. -/
def Within (run rest before : List Char) (P : Place → Prop) : Prop :=
  ∀ xs y ys, run = xs ++ y :: ys → P ⟨xs.reverse ++ before, y :: (ys ++ rest)⟩

variable {test : Char → Bool} {before run rest : List Char} {k : Place → List Place}
  {P : Place → Prop}

/-- Every text begins with a run, which may be empty. -/
theorem exists_isRun (test : Char → Bool) (cs : List Char) :
    ∃ run rest, cs = run ++ rest ∧ IsRun test run rest := by
  refine ⟨cs.takeWhile test, cs.dropWhile test, List.takeWhile_append_dropWhile.symm, ?_, ?_⟩
  · exact List.all_eq_true.1 List.all_takeWhile
  · intro c head
    have stop := List.head?_dropWhile_not test cs
    rw [Option.mem_def.1 head] at stop
    simpa using stop

theorem IsRun.tail {c : Char} (is : IsRun test (c :: run) rest) : IsRun test run rest :=
  ⟨fun d hd => is.all d (List.mem_cons_of_mem c hd), is.stop⟩

theorem IsRun.drop (is : IsRun test run rest) (n : Nat) : IsRun test (run.drop n) rest :=
  ⟨fun c hc => is.all c (List.mem_of_mem_drop hc), is.stop⟩

theorem Within.first {c : Char} (h : Within (c :: run) rest before P) :
    P ⟨before, c :: (run ++ rest)⟩ := h [] c run rfl

theorem Within.drop {xs : List Char} (h : Within (xs ++ run) rest before P) :
    Within run rest (xs.reverse ++ before) P := by
  rintro ys z zs rfl
  simpa using h (xs ++ ys) z zs (by simp)

theorem Within.tail {c : Char} (h : Within (c :: run) rest before P) :
    Within run rest (c :: before) P :=
  Within.drop (show Within ([c] ++ run) rest before P from h)

/-- One character that passes is taken. -/
theorem ends_one_of_pass {c : Char} (pass : test c = true) (cs : List Char) :
    (one test).ends ⟨before, c :: cs⟩ = [⟨c :: before, cs⟩] := by
  rw [ends, if_pos pass]

theorem ends_one_of_stop (stop : ∀ c ∈ rest.head?, test c = false) :
    (one test).ends ⟨before, rest⟩ = [] := by
  cases rest with
  | nil => rfl
  | cons c cs => simp [ends, stop c rfl]

/-- So many turns of one character end within a run or at its end. -/
theorem exactly_run (is : IsRun test run rest) (n : Nat) :
    exactly (one test).ends n ⟨before, run ++ rest⟩ =
      if n ≤ run.length then [⟨(run.take n).reverse ++ before, run.drop n ++ rest⟩] else [] := by
  induction n generalizing before run with
  | zero => simp [exactly]
  | succ n ih =>
    cases run with
    | nil => simp [exactly, ends_one_of_stop is.stop]
    | cons c run =>
      rw [exactly, List.cons_append, ends_one_of_pass (is.all c List.mem_cons_self),
        List.flatMap_singleton, ih is.tail]
      simp

/-- Turns of one character go on to the end of a run, if what comes after them fails within it. -/
theorem flatMap_upTo_run (is : IsRun test run rest)
    (fails : Within run rest before fun here => k here = []) (n : Nat) :
    (upTo (one test).ends n ⟨before, run ++ rest⟩).flatMap k =
      if run.length ≤ n then k ⟨run.reverse ++ before, rest⟩ else [] := by
  induction n generalizing before run with
  | zero =>
    cases run with
    | nil => simp [upTo]
    | cons c run => simp [upTo, fails.first]
  | succ n ih =>
    cases run with
    | nil => simp [upTo, ends_one_of_stop is.stop]
    | cons c run =>
      rw [upTo, List.cons_append, ends_one_of_pass (is.all c List.mem_cons_self),
        List.flatMap_singleton, List.flatMap_append, List.flatMap_singleton, fails.first,
        List.append_nil, ih is.tail fails.tail]
      simp

/-- A repetition of one character takes a whole run, if what comes after it fails within the run. -/
theorem flatMap_ends_run {least : Nat} {most : Option Nat} (order : ∀ n ∈ most, least ≤ n)
    (is : IsRun test run rest) (fails : Within run rest before fun here => k here = []) :
    ((times least most (one test)).ends ⟨before, run ++ rest⟩).flatMap k =
      if least ≤ run.length ∧ ∀ n ∈ most, run.length ≤ n then k ⟨run.reverse ++ before, rest⟩
      else [] := by
  rw [ends, exactly_run is]
  by_cases enough : least ≤ run.length
  · have split : run.take least ++ run.drop least = run := List.take_append_drop least run
    have fails_later : Within (run.drop least) rest ((run.take least).reverse ++ before)
        fun here => k here = [] := Within.drop (by rwa [split])
    have inner := flatMap_upTo_run (is.drop least) fails_later
      (most.elim (run.drop least ++ rest).length (· - least))
    rw [if_pos enough, List.flatMap_singleton, inner, ← List.append_assoc, ← List.reverse_append,
      split, List.length_drop]
    cases most with
    | none => simp [enough]
    | some n =>
      have least_le : least ≤ n := order n rfl
      have room : run.length - least ≤ n - least ↔ run.length ≤ n := by omega
      simp [enough, room]
  · simp [enough]

/-! ## Searching -/

variable {p : Pattern}

theorem foundAfter_skip (p : Pattern) (taken before rest : List Char) :
    p.foundAfter taken.length before (taken ++ rest) =
      p.foundAfter 0 (taken.reverse ++ before) rest := by
  induction taken generalizing before with
  | nil => rfl
  | cons c taken ih =>
    rw [List.length_cons, List.cons_append, foundAfter, ih]
    simp

/-- Characters at which no match begins are passed over. -/
theorem foundAfter_none (none : Within run rest before fun here => p.ends here = []) :
    p.foundAfter 0 before (run ++ rest) = p.foundAfter 0 (run.reverse ++ before) rest := by
  induction run generalizing before with
  | nil => rfl
  | cons c run ih =>
    rw [List.cons_append, foundAfter, none.first, List.head?_nil, ih none.tail]
    simp

/-- After a match, the search goes on from its end. -/
theorem foundAfter_some (filled : run ≠ [])
    (some : (p.ends ⟨before, run ++ rest⟩).head? = some ⟨run.reverse ++ before, rest⟩) :
    p.foundAfter 0 before (run ++ rest) = run :: p.foundAfter 0 (run.reverse ++ before) rest := by
  cases run with
  | nil => exact absurd rfl filled
  | cons c run =>
    rw [List.cons_append] at some ⊢
    have taken : (c :: (run ++ rest)).length - rest.length = run.length + 1 := by
      rw [List.length_cons, List.length_append]
      omega
    simp only [foundAfter, some, taken]
    rw [Nat.add_sub_cancel, foundAfter_skip]
    simp

end Pattern

end KnowledgeGraph.Text

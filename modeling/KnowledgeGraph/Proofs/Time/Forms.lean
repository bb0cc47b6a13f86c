import KnowledgeGraph.Proofs.Number.Binary64
import KnowledgeGraph.Proofs.Time.Pattern
import KnowledgeGraph.Time.FreeText

/-!
# The forms of times exclude each other

Free text is read in several forms, one after the other.  No text is accepted by two of them, so
their order does not matter, and a text of digits is a number of seconds and never a date
(`forms_unambiguous`).

A form fixes how often some characters stand in the texts that it accepts.  Three times a colon or a
letter `Z` stands in a text of the strict form, twice in one with seconds, once in one without and
never in a date (`fixes_strict`, `fixes_plain`).  The letter `T` tells the two forms with seconds
apart.  Every date has two hyphens, and a whole number has one at most.
-/

namespace KnowledgeGraph.Time

/-! ## Forms -/

/-- A form of times.  It answers for the texts that it accepts, and may answer that there is no such
instant. -/
abbrev Form := List Char → Option (Option Instant)

/-- The strict form. -/
def strictForm : Form := fun cs => (readStrict? cs).map some

/-- The form of a pattern. -/
def plainForm (pattern : List Item) : Form := fun cs => (readPlain? pattern cs).map some

/-- The form of whole numbers of 64 bits. -/
def wholeForm : Form := fun cs => (readWhole? cs).map (Instant.of? · 0)

/-- The forms with a date. -/
def dateForms : List Form := strictForm :: plainPatterns.map plainForm

/-- All forms but that of decimal numbers, in the order of trial. -/
def forms : List Form := dateForms ++ [wholeForm]

/-- The answer of the first form that accepts a text.  A text that none of them accepts is read as a
decimal number. -/
def readInForms (forms : List Form) (cs : List Char) : Option Instant :=
  (forms.findSome? (· cs)).getD
    ((readScientific? cs).bind fun x => x.truncate?.bind (Instant.of? · 0))

/-- Free text is read in the forms. -/
theorem readFree?_eq_readInForms (cs : List Char) : readFree? cs = readInForms forms cs := by
  have plain : (plainPatterns.map plainForm).findSome? (· cs) =
      (plainPatterns.findSome? (readPlain? · cs)).map some := by
    rw [List.findSome?_map, List.map_findSome?]
    rfl
  rw [readFree?, readInForms, forms, dateForms, List.findSome?_append, List.findSome?_cons, plain,
    strictForm, readEpoch?]
  cases readStrict? cs with
  | some t => rfl
  | none =>
    cases plainPatterns.findSome? (readPlain? · cs) with
    | some t => rfl
    | none =>
      rw [List.findSome?_cons, wholeForm]
      cases readWhole? cs <;> rfl

/-! ## Forms that exclude each other -/

/-- No text is accepted by both forms. -/
def Excludes (f g : Form) : Prop := ∀ cs, f cs = none ∨ g cs = none

/-- Where forms exclude each other, any form that accepts a text gives the answer. -/
theorem findSome?_of_mem {forms : List Form} (apart : forms.Pairwise Excludes) {f : Form}
    (mem : f ∈ forms) {cs : List Char} {answer : Option Instant} (accepts : f cs = some answer) :
    forms.findSome? (· cs) = some answer := by
  induction apart with
  | nil => cases mem
  | @cons g forms excludes _ ih =>
    rw [List.findSome?_cons]
    rcases List.mem_cons.1 mem with rfl | later
    · rw [accepts]
    · have rejects : g cs = none := by
        refine (excludes f later cs).resolve_right ?_
        rw [accepts]
        exact Option.some_ne_none _
      rw [rejects]
      exact ih later

/-- Where forms exclude each other, their order does not matter. -/
theorem readInForms_perm {forms others : List Form} (apart : forms.Pairwise Excludes)
    (perm : others.Perm forms) (cs : List Char) :
    readInForms others cs = readInForms forms cs := by
  have same : others.findSome? (· cs) = forms.findSome? (· cs) := by
    cases h : others.findSome? (· cs) with
    | none =>
      rw [List.findSome?_eq_none_iff] at h
      exact (List.findSome?_eq_none_iff.2 fun f mem => h f (perm.mem_iff.2 mem)).symm
    | some answer =>
      obtain ⟨f, mem, accepts⟩ := List.exists_of_findSome?_eq_some h
      exact (findSome?_of_mem apart (perm.mem_iff.1 mem) accepts).symm
  rw [readInForms, same, readInForms]

/-! ## Forms that fix a count -/

/-- All texts that a form accepts have the same number of characters with a property. -/
def Fixes (f : Form) (p : Char → Bool) (n : Nat) : Prop :=
  ∀ cs answer, f cs = some answer → cs.countP p = n

theorem excludes_of_fixes {f g : Form} {p : Char → Bool} {m n : Nat} (hf : Fixes f p m)
    (hg : Fixes g p n) (differ : m ≠ n) : Excludes f g := by
  intro cs
  cases first : f cs with
  | none => exact .inl rfl
  | some a =>
    cases second : g cs with
    | none => exact .inr rfl
    | some b => exact absurd ((hf cs a first).symm.trans (hg cs b second)) differ

/-- The pattern of a form reads what the form accepts. -/
theorem readPattern?_of_plainForm {pattern : List Item} {cs : List Char} {answer : Option Instant}
    (h : plainForm pattern cs = some answer) : ∃ r, readPattern? pattern cs = some r := by
  obtain ⟨t, read, -⟩ := Option.map_eq_some_iff.1 h
  obtain ⟨r, read, -⟩ := Option.bind_eq_some_iff.1 read
  exact ⟨r, read⟩

/-- A pattern fixes the number of its marks. -/
theorem fixes_plain {p : Char → Bool} (solid : ∀ c, p c = true → ¬ IsLoose c)
    (pattern : List Item) : Fixes (plainForm pattern) p ((marks pattern).countP p) := by
  intro cs answer h
  obtain ⟨r, read⟩ := readPattern?_of_plainForm h
  exact countP_of_readPattern? solid read

/-! ## Counts in the strict form -/

/-- A colon, or the letter that stands for no offset. -/
def isClockMark (c : Char) : Bool := c == ':' || c == 'Z' || c == 'z'

theorem not_isLoose_of_isClockMark (c : Char) (h : isClockMark c = true) : ¬ IsLoose c := by
  simp only [isClockMark, Bool.or_eq_true, beq_iff_eq] at h
  rcases h with (rfl | rfl) | rfl <;> decide

theorem isClockMark_of_isDigit (c : Char) (digit : c.isDigit = true) : isClockMark c = false :=
  Bool.eq_false_iff.2 fun mark => not_isLoose_of_isClockMark c mark (.inl digit)

/-- Digits have no property that no digit has. -/
theorem countP_of_all_isDigit {ds : List Char} (digits : ds.all Char.isDigit = true)
    {p : Char → Bool} (other : ∀ c, c.isDigit = true → p c = false) : ds.countP p = 0 :=
  List.countP_eq_zero.2 fun c mem => by simp [other c (List.all_eq_true.1 digits c mem)]

theorem readFixed?_split {width n : Nat} {cs rest : List Char}
    (h : readFixed? width cs = some (n, rest)) :
    ∃ ds, cs = ds ++ rest ∧ ds.all Char.isDigit = true := by
  rw [readFixed?] at h
  split at h
  · next digits =>
    cases h
    exact ⟨cs.take width, (List.take_append_drop width cs).symm, digits.2⟩
  · cases h

theorem readMark?_split {c : Char} {cs rest : List Char} (h : readMark? c cs = some rest) :
    cs = c :: rest := by
  cases cs with
  | nil => cases h
  | cons d cs =>
    rw [readMark?] at h
    split at h
    · next eq =>
      cases h
      rw [eq]
    · cases h

theorem readSeparator?_split {cs rest : List Char} (h : readSeparator? cs = some rest) :
    ∃ c, cs = c :: rest ∧ isClockMark c = false := by
  cases cs with
  | nil => cases h
  | cons c cs =>
    rw [readSeparator?] at h
    split at h
    · next letter =>
      cases h
      exact ⟨c, rfl, by rcases letter with rfl | rfl | rfl <;> decide⟩
    · cases h

/-- A fraction has a point and digits. -/
theorem readNanos?_split {n : Nat} {cs rest : List Char} (h : readNanos? cs = some (n, rest)) :
    ∃ front, cs = front ++ rest ∧ front.countP isClockMark = 0 := by
  unfold readNanos? at h
  split at h
  · next cs =>
    split at h
    · next read =>
      cases h
      have digits := countP_of_all_isDigit (List.all_takeWhile (p := Char.isDigit) (l := cs))
        isClockMark_of_isDigit
      exact ⟨'.' :: cs.takeWhile Char.isDigit,
        congrArg _ List.takeWhile_append_dropWhile.symm, by rw [List.countP_cons, digits]; decide⟩
    · cases h
  · next plain =>
    exact ⟨[], by cases h; rfl, rfl⟩

/-- An offset has a colon or a letter. -/
theorem readOffset?_split {n : Int} {cs rest : List Char}
    (h : readOffset? (readMark? ':') cs = some (n, rest)) :
    ∃ front, cs = front ++ rest ∧ front.countP isClockMark = 1 := by
  have signed {sign : Char} {cs₁ cs₂ cs₃ : List Char} {hours minutes : Nat}
      (solid : isClockMark sign = false) (first : readFixed? 2 cs₁ = some (hours, cs₂))
      (colon : readMark? ':' cs₂ = some cs₃) (second : readFixed? 2 cs₃ = some (minutes, rest)) :
      ∃ front, sign :: cs₁ = front ++ rest ∧ front.countP isClockMark = 1 := by
    obtain ⟨ds, rfl, all⟩ := readFixed?_split first
    obtain rfl := readMark?_split colon
    obtain ⟨ds', rfl, all'⟩ := readFixed?_split second
    refine ⟨sign :: (ds ++ ':' :: ds'), by simp, ?_⟩
    rw [List.countP_cons, List.countP_append, List.countP_cons,
      countP_of_all_isDigit all isClockMark_of_isDigit,
      countP_of_all_isDigit all' isClockMark_of_isDigit, solid]
    rfl
  unfold readOffset? at h
  split at h
  · cases h
    exact ⟨['Z'], rfl, rfl⟩
  · cases h
    exact ⟨['z'], rfl, rfl⟩
  case h_6 => cases h
  -- The three signs differ in the number only.
  all_goals
    obtain ⟨⟨_, cs₂⟩, first, h⟩ := Option.bind_eq_some_iff.1 h
    obtain ⟨cs₃, colon, h⟩ := Option.bind_eq_some_iff.1 h
    obtain ⟨⟨_, cs₄⟩, second, h⟩ := Option.bind_eq_some_iff.1 h
    obtain ⟨-, answer⟩ := Option.ite_none_right_eq_some.1 h
    cases answer
    exact signed (by decide) first colon second

/-- A text of the strict form has two hyphens at least, and three clock marks. -/
theorem readStrict?_counts {cs : List Char} {t : Instant} (h : readStrict? cs = some t) :
    cs.countP isClockMark = 3 ∧ 2 ≤ cs.count '-' := by
  obtain ⟨⟨_, _⟩, year, h⟩ := Option.bind_eq_some_iff.1 h
  obtain ⟨_, hyphen, h⟩ := Option.bind_eq_some_iff.1 h
  obtain ⟨⟨_, _⟩, month, h⟩ := Option.bind_eq_some_iff.1 h
  obtain ⟨_, hyphen', h⟩ := Option.bind_eq_some_iff.1 h
  obtain ⟨⟨_, _⟩, day, h⟩ := Option.bind_eq_some_iff.1 h
  obtain ⟨_, separator, h⟩ := Option.bind_eq_some_iff.1 h
  obtain ⟨⟨_, _⟩, hour, h⟩ := Option.bind_eq_some_iff.1 h
  obtain ⟨_, colon, h⟩ := Option.bind_eq_some_iff.1 h
  obtain ⟨⟨_, _⟩, minute, h⟩ := Option.bind_eq_some_iff.1 h
  obtain ⟨_, colon', h⟩ := Option.bind_eq_some_iff.1 h
  obtain ⟨⟨_, _⟩, second, h⟩ := Option.bind_eq_some_iff.1 h
  obtain ⟨⟨_, _⟩, nanos, h⟩ := Option.bind_eq_some_iff.1 h
  obtain ⟨⟨_, rest⟩, offset, h⟩ := Option.bind_eq_some_iff.1 h
  obtain rfl : rest = [] := List.isEmpty_iff.1 (Option.ite_none_right_eq_some.1 h).1.1
  obtain ⟨years, rfl, years_all⟩ := readFixed?_split year
  obtain rfl := readMark?_split hyphen
  obtain ⟨months, rfl, months_all⟩ := readFixed?_split month
  obtain rfl := readMark?_split hyphen'
  obtain ⟨days, rfl, days_all⟩ := readFixed?_split day
  obtain ⟨letter, rfl, plain⟩ := readSeparator?_split separator
  obtain ⟨hours, rfl, hours_all⟩ := readFixed?_split hour
  obtain rfl := readMark?_split colon
  obtain ⟨minutes, rfl, minutes_all⟩ := readFixed?_split minute
  obtain rfl := readMark?_split colon'
  obtain ⟨seconds, rfl, seconds_all⟩ := readFixed?_split second
  obtain ⟨fraction, rfl, no_mark⟩ := readNanos?_split nanos
  obtain ⟨zone, rfl, one_mark⟩ := readOffset?_split offset
  have digits {ds : List Char} (all : ds.all Char.isDigit = true) : ds.countP isClockMark = 0 :=
    countP_of_all_isDigit all isClockMark_of_isDigit
  constructor
  · simp only [List.countP_append, List.countP_cons, List.countP_nil, digits years_all,
      digits months_all, digits days_all, digits hours_all, digits minutes_all, digits seconds_all,
      no_mark, one_mark, plain]
    rfl
  · simp only [List.count_append, List.count_cons, beq_self_eq_true, if_true]
    omega

theorem fixes_strict : Fixes strictForm isClockMark 3 := by
  intro cs answer h
  obtain ⟨t, read, -⟩ := Option.map_eq_some_iff.1 h
  exact (readStrict?_counts read).1

/-! ## Dates against each other -/

theorem pairwise_dateForms : dateForms.Pairwise Excludes := by
  have clock := fixes_plain not_isLoose_of_isClockMark
  have letter := fixes_plain (p := (· == 'T')) (by simpa using (by decide : ¬ IsLoose 'T'))
  have strict (pattern : List Item) (fewer : 3 ≠ (marks pattern).countP isClockMark) :
      Excludes strictForm (plainForm pattern) := excludes_of_fixes fixes_strict (clock _) fewer
  have plain (items others : List Item)
      (differ : (marks items).countP isClockMark ≠ (marks others).countP isClockMark ∨
        (marks items).countP (· == 'T') ≠ (marks others).countP (· == 'T')) :
      Excludes (plainForm items) (plainForm others) :=
    differ.elim (excludes_of_fixes (clock _) (clock _)) (excludes_of_fixes (letter _) (letter _))
  rw [dateForms, List.pairwise_cons, List.forall_mem_map, List.pairwise_map]
  constructor
  · have fewer : ∀ pattern ∈ plainPatterns, 3 ≠ (marks pattern).countP isClockMark := by decide
    exact fun pattern mem => strict pattern (fewer pattern mem)
  · refine List.Pairwise.imp (plain _ _) ?_
    decide

/-! ## Dates against whole numbers -/

/-- Every date has two hyphens. -/
theorem two_le_count_of_dateForms {f : Form} (mem : f ∈ dateForms) {cs : List Char}
    {answer : Option Instant} (h : f cs = some answer) : 2 ≤ cs.count '-' := by
  have hyphens : ∀ pattern ∈ plainPatterns, (marks pattern).countP (· == '-') = 2 := by decide
  rcases List.mem_cons.1 mem with rfl | plain
  · obtain ⟨t, read, -⟩ := Option.map_eq_some_iff.1 h
    exact (readStrict?_counts read).2
  · obtain ⟨pattern, listed, rfl⟩ := List.mem_map.1 plain
    obtain ⟨r, read⟩ := readPattern?_of_plainForm h
    exact hyphens pattern listed ▸ le_countP_of_readPattern? (· == '-') read

/-- Digits with or without a sign have one hyphen at most. -/
theorem count_le_one_of_isDigits {cs : List Char} (h : isDigits (takeSign cs).2 = true) :
    cs.count '-' ≤ 1 := by
  have none {ds : List Char} (h : isDigits ds = true) : ds.count '-' = 0 := by
    rw [isDigits, Bool.and_eq_true] at h
    exact countP_of_all_isDigit h.2 fun c digit => beq_false_of_ne (by rintro rfl; cases digit)
  unfold takeSign at h
  split at h
  · next ds =>
    have rest : ds.count '-' = 0 := none h
    rw [List.count_cons_self]
    omega
  · next ds =>
    have rest : ds.count '-' = 0 := none h
    rw [List.count_cons_of_ne (by decide)]
    omega
  · have all : cs.count '-' = 0 := none h
    omega

/-- No form of dates accepts digits, with or without a sign. -/
theorem dateForms_of_isDigits {f : Form} (mem : f ∈ dateForms) {cs : List Char}
    (h : isDigits (takeSign cs).2 = true) : f cs = none := by
  refine Option.eq_none_iff_forall_ne_some.2 fun answer accepts => ?_
  have := two_le_count_of_dateForms mem accepts
  have := count_le_one_of_isDigits h
  omega

/-- No text is accepted by two forms. -/
theorem pairwise_forms : forms.Pairwise Excludes := by
  refine List.pairwise_append.2 ⟨pairwise_dateForms, List.pairwise_singleton _ _, ?_⟩
  intro f mem g last cs
  obtain rfl := List.mem_singleton.1 last
  by_cases digits : isDigits (takeSign cs).2 = true
  · exact .inl (dateForms_of_isDigits mem digits)
  · refine .inr ?_
    rw [wholeForm, readWhole?]
    simp [digits]

/-! ## Whole numbers -/

/-- The number that digits with or without a sign stand for. -/
def signedValue (cs : List Char) : Int :=
  if (takeSign cs).1 then -(decimalValue (takeSign cs).2 : Int) else decimalValue (takeSign cs).2

theorem readWhole?_of_isDigits {cs : List Char} (h : isDigits (takeSign cs).2 = true) :
    readWhole? cs = if Number.IsSigned (signedValue cs) then some (signedValue cs) else none := by
  rw [readWhole?]
  simp only [if_pos h]
  rfl

/-- Digits with or without a sign are a decimal number as well. -/
theorem readScientific?_of_isDigits {cs : List Char} (h : isDigits (takeSign cs).2 = true) :
    readScientific? cs = some ⟨(takeSign cs).1, decimalValue (takeSign cs).2, 0⟩ := by
  rw [isDigits, Bool.and_eq_true] at h
  have digits := List.all_eq_true.1 h.2
  have front : (takeSign cs).2.takeWhile Char.isDigit = (takeSign cs).2 :=
    List.takeWhile_eq_self_iff.2 digits
  have back : (takeSign cs).2.dropWhile Char.isDigit = [] := List.dropWhile_eq_nil_iff.2 digits
  have filled : (takeSign cs).2.isEmpty = false := by simpa using h.1
  simp only [readScientific?, front, back]
  simp [filled, readPower?]

/-- No instant is 2 ^ 63 seconds or more away from the start of 1970. -/
theorem of?_of_large {n : Int} (large : 2 ^ 63 ≤ n ∨ n ≤ -2 ^ 63) : Instant.of? n 0 = none := by
  refine dif_neg ?_
  rintro ⟨earliest, latest, -⟩
  simp only [earliestSecond, latestSecond] at earliest latest
  omega

/-- A number beyond 64 bits stays beyond them when it is rounded to a double. -/
theorem truncate?_of_large {m : Nat} (large : 2 ^ 63 ≤ m) (negative : Bool) :
    (Scientific.mk negative m 0).truncate?.bind (Instant.of? · 0) = none := by
  refine Option.bind_eq_none_iff.2 fun n h => ?_
  simp only [Scientific.truncate?] at h
  split at h
  · omega
  · split at h
    · cases h
    · obtain ⟨d, value, rfl⟩ := Option.map_eq_some_iff.1 h
      have far := Number.le_truncate_ofScientific large value
      refine of?_of_large ?_
      split <;> omega

/-- Digits with or without a sign are a number of seconds, and nothing else. -/
theorem readFree?_of_isDigits {cs : List Char} (h : isDigits (takeSign cs).2 = true) :
    readFree? cs = Instant.of? (signedValue cs) 0 := by
  have dates : dateForms.findSome? (· cs) = none :=
    List.findSome?_eq_none_iff.2 fun f mem => dateForms_of_isDigits mem h
  rw [readFree?_eq_readInForms, readInForms, forms, List.findSome?_append, dates, Option.none_or,
    List.findSome?_cons, wholeForm, readWhole?_of_isDigits h, readScientific?_of_isDigits h]
  by_cases fits : Number.IsSigned (signedValue cs)
  · rw [if_pos fits]
    rfl
  · rw [if_neg fits]
    simp only [Number.IsSigned, Number.leastSigned, Number.greatestSigned, signedValue] at fits
    have large : 2 ^ 63 ≤ decimalValue (takeSign cs).2 := by split at fits <;> omega
    refine (truncate?_of_large large _).trans (of?_of_large ?_).symm
    rw [signedValue]
    split <;> omega

/-! ## Free text -/

/-- No text is accepted by two forms, so free text is answered alike in any order of them.  Digits
with or without a sign, however many, are no date and stand for a number of seconds. -/
theorem forms_unambiguous :
    forms.Pairwise Excludes ∧
      (∀ others : List Form, others.Perm forms → ∀ s : String,
        ofText? s = readInForms others (Text.trimChars s.toList)) ∧
      ∀ s : String, isDigits (takeSign (Text.trimChars s.toList)).2 = true →
        (∀ f ∈ dateForms, f (Text.trimChars s.toList) = none) ∧
          ofText? s = Instant.of? (signedValue (Text.trimChars s.toList)) 0 := by
  refine ⟨pairwise_forms, fun others perm s => ?_, fun s digits => ⟨?_, ?_⟩⟩
  · rw [ofText?, readFree?_eq_readInForms, readInForms_perm pairwise_forms perm]
  · exact fun f mem => dateForms_of_isDigits mem digits
  · exact readFree?_of_isDigits digits

/-- A date that is read with the forms in reverse, and eight digits that are no date. -/
theorem forms_unambiguous_reversed :
    readInForms forms.reverse "2024-03-01".toList = ofText? "2024-03-01" ∧
      ofText? " 20240301 " = some ⟨20240301, 0, by decide⟩ := by
  have ⟨_, ordered, digits⟩ := forms_unambiguous
  refine ⟨(ordered forms.reverse forms.reverse_perm "2024-03-01").symm, ?_⟩
  exact (digits " 20240301 " (by decide)).2

end KnowledgeGraph.Time

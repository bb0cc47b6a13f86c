import KnowledgeGraph.Proofs.Text.Words
import KnowledgeGraph.Proofs.Time.Instant
import KnowledgeGraph.Proofs.Time.Pattern
import KnowledgeGraph.Time.FreeText
import KnowledgeGraph.Time.Written

/-!
# What is written reads back

An instant that is written to the second reads back without its fraction if its year has four
digits, and not at all otherwise (`ofText?_written`).  The strict form has no place for the sign of
any other year.  The forms without an offset read past digits, blanks and their own marks only, so
none of them gets past the final `Z` (`readFree?_eq_readStrict?`).
-/

namespace KnowledgeGraph

/-! ## Digits -/

theorem digitChar_spec : ∀ k < 10, (Char.ofNat (48 + k)).isDigit = true ∧
    (Char.ofNat (48 + k)).toNat = 48 + k ∧ Character.isBlank (Char.ofNat (48 + k)) = false := by
  decide

@[simp] theorem isDigit_lastDigit (n : Nat) : (lastDigit n).isDigit = true :=
  (digitChar_spec _ (Nat.mod_lt _ (by omega))).1

@[simp] theorem toNat_lastDigit (n : Nat) : (lastDigit n).toNat = 48 + n % 10 :=
  (digitChar_spec _ (Nat.mod_lt _ (by omega))).2.1

theorem isBlank_lastDigit (n : Nat) : Character.isBlank (lastDigit n) = false :=
  (digitChar_spec _ (Nat.mod_lt _ (by omega))).2.2

namespace Time

theorem decimalValue_twoDigits (n : Nat) : decimalValue (twoDigits n) = n % 100 := by
  simp only [decimalValue, twoDigits, List.foldl_cons, List.foldl_nil, toNat_lastDigit]
  omega

theorem decimalValue_fourDigits (n : Nat) : decimalValue (fourDigits n) = n % 10000 := by
  simp only [decimalValue, fourDigits, twoDigits, List.cons_append, List.nil_append,
    List.foldl_cons, List.foldl_nil, toNat_lastDigit]
  omega

/-- As many digits as are asked for are read. -/
theorem readFixed?_append {width : Nat} {ds : List Char} (length : ds.length = width)
    (digits : ds.all Char.isDigit = true) (rest : List Char) :
    readFixed? width (ds ++ rest) = some (decimalValue ds, rest) := by
  subst length
  simp [readFixed?, digits]

theorem readFixed?_twoDigits (n : Nat) (rest : List Char) :
    readFixed? 2 (twoDigits n ++ rest) = some (n % 100, rest) := by
  have length : (twoDigits n).length = 2 := rfl
  rw [readFixed?_append length (by simp [twoDigits]), decimalValue_twoDigits]

theorem readFixed?_fourDigits (n : Nat) (rest : List Char) :
    readFixed? 4 (fourDigits n ++ rest) = some (n % 10000, rest) := by
  have length : (fourDigits n).length = 4 := rfl
  rw [readFixed?_append length (by simp [fourDigits, twoDigits]), decimalValue_fourDigits]

/-! ## The strict form -/

/-- A year of four digits is written with them. -/
theorem yearChars_of_four {year : Int} (h : 0 ≤ year ∧ year < 10000) :
    yearChars year = fourDigits year.natAbs := by
  rw [yearChars]
  simp only [if_pos h]
  rw [if_pos (by omega)]

/-- A year begins with a digit or, where it has not four of them, with a sign. -/
theorem yearChars_eq_cons (year : Int) : ∃ c cs, yearChars year = c :: cs ∧
    Character.isBlank c = false ∧ (¬ (0 ≤ year ∧ year < 10000) → c.isDigit = false) := by
  by_cases four : 0 ≤ year ∧ year < 10000
  · rw [yearChars_of_four four]
    exact ⟨lastDigit (year.natAbs / 100 / 10), _, rfl, isBlank_lastDigit _, absurd four⟩
  · rw [yearChars]
    simp only [if_neg four]
    refine ⟨_, _, rfl, ?_, fun _ => ?_⟩ <;> split <;> decide

/-- A reader that succeeds hands its answer over to the next one. -/
theorem bind_of_eq_some {α β : Type} {o : Option α} {a : α} (h : o = some a) (f : α → Option β) :
    (o >>= f) = f a := by
  rw [h]
  rfl

theorem readMark?_self (c : Char) (rest : List Char) : readMark? c (c :: rest) = some rest := by
  rw [readMark?, if_pos rfl]

/-- A reading whose year has four digits is written in fields of fixed width. -/
theorem chars_eq_fields {r : Instant.Reading} (year : 0 ≤ r.year ∧ r.year < 10000)
    (rest : List Char) : r.chars ++ rest =
      fourDigits r.year.natAbs ++ '-' :: (twoDigits r.month ++ '-' :: (twoDigits r.day ++
        'T' :: (twoDigits r.hour ++ ':' :: (twoDigits r.minute ++ ':' :: (twoDigits r.second ++
          rest))))) := by
  rw [Instant.Reading.chars, Date.chars, Instant.Reading.date, yearChars_of_four year]
  simp only [List.append_assoc, List.cons_append]

/-- The strict form reads what a clock shows, if the year has four digits. -/
theorem readStrict?_chars {r : Instant.Reading} (valid : r.IsValid)
    (year : 0 ≤ r.year ∧ r.year < 10000) :
    readStrict? (r.chars ++ ['Z']) = Instant.ofReading? { r with nanos := 0 } 0 := by
  have ⟨_, _, date, hour, minute, second, _⟩ := valid
  have ⟨_, month, day⟩ := date.bounds
  have number : ((r.year.natAbs % 10000 : Nat) : Int) = r.year := by omega
  simp only [Instant.Reading.date] at month day
  rw [chars_eq_fields year, readStrict?]
  refine (bind_of_eq_some (readFixed?_fourDigits _ _) _).trans ?_
  refine (bind_of_eq_some (readMark?_self '-' _) _).trans ?_
  refine (bind_of_eq_some (readFixed?_twoDigits _ _) _).trans ?_
  refine (bind_of_eq_some (readMark?_self '-' _) _).trans ?_
  refine (bind_of_eq_some (readFixed?_twoDigits _ _) _).trans ?_
  refine (bind_of_eq_some (rfl : readSeparator? ('T' :: _) = some _) _).trans ?_
  refine (bind_of_eq_some (readFixed?_twoDigits _ _) _).trans ?_
  refine (bind_of_eq_some (readMark?_self ':' _) _).trans ?_
  refine (bind_of_eq_some (readFixed?_twoDigits _ _) _).trans ?_
  refine (bind_of_eq_some (readMark?_self ':' _) _).trans ?_
  refine (bind_of_eq_some (readFixed?_twoDigits _ _) _).trans ?_
  refine (bind_of_eq_some (rfl : readNanos? ['Z'] = some (0, ['Z'])) _).trans ?_
  refine (bind_of_eq_some (rfl : readOffset? _ ['Z'] = some (0, [])) _).trans ?_
  refine (if_pos ⟨rfl, by decide⟩).trans ?_
  rw [number, Nat.mod_eq_of_lt (by omega : r.month < 100),
    Nat.mod_eq_of_lt (by omega : r.day < 100), Nat.mod_eq_of_lt (by omega : r.hour < 100),
    Nat.mod_eq_of_lt (by omega : r.minute < 100), Nat.mod_eq_of_lt (by omega : r.second < 100)]

theorem readStrict?_of_sign {c : Char} (h : c.isDigit = false) (cs : List Char) :
    readStrict? (c :: cs) = none := by
  have year : readFixed? 4 (c :: cs) = none := by
    simp [readFixed?, h]
  rw [readStrict?, year]
  rfl

/-! ## The forms without an offset -/

theorem mem_dropWhile {α : Type} {p : α → Bool} {a : α} {as : List α} (stops : p a = false)
    (mem : a ∈ as) : a ∈ as.dropWhile p := by
  rw [← List.takeWhile_append_dropWhile (p := p) (l := as)] at mem
  rcases List.mem_append.1 mem with taken | dropped
  · have passed := List.all_eq_true.1 List.all_takeWhile a taken
    rw [stops] at passed
    cases passed
  · exact dropped

/-- No pattern has the letter `Z` for a mark. -/
theorem readPlain?_eq_none {pattern : List Item} (hp : pattern ∈ plainPatterns) {cs : List Char}
    (mem : 'Z' ∈ cs) : readPlain? pattern cs = none := by
  have unmarked : ∀ items ∈ plainPatterns, (marks items).count 'Z' = 0 := by decide
  have solid : ∀ c, (c == 'Z') = true → ¬ IsLoose c := by
    simpa using (by decide : ¬ IsLoose 'Z')
  have unread : readPattern? pattern cs = none := by
    refine Option.eq_none_iff_forall_ne_some.2 fun r read => ?_
    have count : cs.count 'Z' = (marks pattern).count 'Z' := countP_of_readPattern? solid read
    rw [unmarked pattern hp] at count
    exact List.count_eq_zero.1 count mem
  rw [readPlain?, unread]
  rfl

/-! ## Numbers -/

theorem mem_takeSign {cs : List Char} (mem : 'Z' ∈ cs) : 'Z' ∈ (takeSign cs).2 := by
  unfold takeSign
  split
  · simpa using mem
  · simpa using mem
  · exact mem

theorem isDigits_eq_false {cs : List Char} (mem : 'Z' ∈ cs) : isDigits cs = false := by
  have letter : cs.all Char.isDigit = false := List.all_eq_false.2 ⟨'Z', mem, by decide⟩
  rw [isDigits, letter, Bool.and_false]

theorem readPower?_eq_none {cs : List Char} (mem : 'Z' ∈ cs) : readPower? cs = none := by
  cases cs with
  | nil => cases mem
  | cons c cs =>
    rw [readPower?]
    simp only
    rw [if_neg]
    rintro ⟨exponent, digits⟩
    have later : 'Z' ∈ cs := by
      rcases List.mem_cons.1 mem with rfl | later
      · exact absurd exponent (by decide)
      · exact later
    rw [isDigits_eq_false (mem_takeSign later)] at digits
    cases digits

theorem readScientific?_eq_none {cs : List Char} (mem : 'Z' ∈ cs) : readScientific? cs = none := by
  have digit : Char.isDigit 'Z' = false := by decide
  have rest := mem_dropWhile digit (mem_takeSign mem)
  simp only [readScientific?]
  generalize (takeSign cs).2.dropWhile Char.isDigit = tail at rest
  generalize (takeSign cs).2.takeWhile Char.isDigit = whole
  -- With or without a point, `Z` is left where the exponent should stand.
  split
  · next after =>
    have left : 'Z' ∈ after := by simpa using rest
    simp [readPower?_eq_none (mem_dropWhile digit left)]
  · simp [readPower?_eq_none rest]

theorem readEpoch?_eq_none {cs : List Char} (mem : 'Z' ∈ cs) : readEpoch? cs = none := by
  have whole : readWhole? cs = none := by
    simp [readWhole?, isDigits_eq_false (mem_takeSign mem)]
  rw [readEpoch?, whole, readScientific?_eq_none mem]
  rfl

/-- Of a text with the letter `Z`, only the strict form makes sense. -/
theorem readFree?_eq_readStrict? {cs : List Char} (mem : 'Z' ∈ cs) :
    readFree? cs = readStrict? cs := by
  have plain : plainPatterns.findSome? (readPlain? · cs) = none :=
    List.findSome?_eq_none_iff.2 fun pattern hp => readPlain?_eq_none hp mem
  rw [readFree?, plain, readEpoch?_eq_none mem]
  simp

/-! ## Written instants -/

/-- A written instant begins as its year does. -/
theorem written_eq_cons (t : Instant) : ∃ c cs, t.reading.chars = c :: cs ∧
    Character.isBlank c = false ∧
      (¬ (0 ≤ t.date.year ∧ t.date.year < 10000) → c.isDigit = false) := by
  obtain ⟨c, cs, front, solid, signed⟩ := yearChars_eq_cons t.date.year
  have year : t.reading.date.year = t.date.year := rfl
  rw [Instant.Reading.chars, Date.chars, year, front]
  exact ⟨c, _, rfl, solid, signed⟩

/-- A written instant has no blanks at its ends. -/
theorem trimChars_written (t : Instant) : Text.trimChars t.written.toList = t.written.toList := by
  obtain ⟨c, cs, chars, solid, -⟩ := written_eq_cons t
  have last : Character.isBlank 'Z' = false := by decide
  rw [Instant.written, String.toList_ofList]
  refine Text.trimChars_eq_self ?_ ?_
  · simpa [chars] using solid
  · simpa using last

/-- A written instant is not blank. -/
theorem presence?_written (t : Instant) : Text.presence? t.written = some t.written := by
  have trimmed : Text.trim t.written = t.written := by
    rw [Text.trim, trimChars_written, String.ofList_toList]
  have some : t.written ≠ "" := by
    simp [Instant.written, ← String.toList_inj]
  simp [Text.presence?, trimmed, some]

/-- An instant that is written to the second reads back without its fraction, if its year has four
digits, and does not read back otherwise. -/
theorem ofText?_written (t : Instant) : ofText? t.written =
    if 0 ≤ t.date.year ∧ t.date.year < 10000 then some t.truncated else none := by
  obtain ⟨c, cs, chars, -, signed⟩ := written_eq_cons t
  have strict : ofText? t.written = readStrict? (t.reading.chars ++ ['Z']) := by
    rw [ofText?, trimChars_written, Instant.written, String.toList_ofList,
      readFree?_eq_readStrict? (by simp)]
  rw [strict]
  split
  · next year =>
    rw [readStrict?_chars t.isValid_reading year, ← t.reading_truncated]
    exact t.truncated.ofReading?_reading
  · next year =>
    rw [chars]
    exact readStrict?_of_sign (signed year) _

end Time

end KnowledgeGraph

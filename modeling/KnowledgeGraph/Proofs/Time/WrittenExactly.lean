import Mathlib.Data.List.TakeWhile
import KnowledgeGraph.Proofs.Time.Written
import KnowledgeGraph.Time.Interchange

/-!
# What is written exactly reads back

An instant that is written with its fraction reads back in the relaxed form, leap seconds and years
without four digits included (`ofRelaxed?_writtenExactly`).  The relaxed form has a place for the
sign of a year, and its slots take the digits that are written for them and no more
(`readDigits?_append`).
-/

namespace KnowledgeGraph.Time

open Text (dropBlanks dropBlanks_eq_self)

/-! ## Digits -/

theorem decimalValue_toDigits (n : Nat) : decimalValue (Nat.toDigits 10 n) = n := by
  have value : decimalValue (Nat.toDigits 10 n) = Nat.ofDigitChars 10 (Nat.toDigits 10 n) 0 := by
    simp only [decimalValue, Nat.ofDigitChars_eq_foldl, Nat.mul_comm 10]
    rfl
  rw [value, Nat.ofDigitChars_ten_toDigits]

theorem decimalValue_append_singleton (cs : List Char) (c : Char) :
    decimalValue (cs ++ [c]) = decimalValue cs * 10 + (c.toNat - 48) := by
  rw [decimalValue, List.foldl_append]
  rfl

theorem decimalValue_lastDigits (k n : Nat) : decimalValue (lastDigits k n) = n % 10 ^ k := by
  induction k generalizing n with
  | zero => rw [Nat.pow_zero, Nat.mod_one]; rfl
  | succ k ih =>
    rw [lastDigits, decimalValue_append_singleton, ih, toNat_lastDigit, Nat.pow_succ',
      Nat.mod_mul]
    omega

theorem length_lastDigits (k n : Nat) : (lastDigits k n).length = k := by
  induction k generalizing n with
  | zero => rfl
  | succ k ih => rw [lastDigits, List.length_append, ih, List.length_singleton]

theorem all_lastDigits (k n : Nat) : (lastDigits k n).all Char.isDigit = true := by
  induction k generalizing n with
  | zero => rfl
  | succ k ih => simp [lastDigits, ih]

/-- The digits of a text are taken off it, if they fit and something else comes after them. -/
theorem takeWhile_take_append {width : Nat} {ds rest : List Char}
    (digits : ds.all Char.isDigit = true) (fits : ds.length ≤ width)
    (stops : ds.length = width ∨ ∀ c ∈ rest.head?, c.isDigit = false) :
    ((ds ++ rest).take width).takeWhile Char.isDigit = ds := by
  have none : (rest.take (width - ds.length)).takeWhile Char.isDigit = [] := by
    rcases stops with full | stops
    · rw [full, Nat.sub_self, List.take_zero, List.takeWhile_nil]
    · cases rest with
      | nil => simp
      | cons c rest =>
        cases width - ds.length with
        | zero => rfl
        | succ k => rw [List.take_succ_cons, List.takeWhile_cons_of_neg (by simp [stops c rfl])]
  rw [List.take_append, List.take_of_length_le fits,
    List.takeWhile_append_of_pos (List.all_eq_true.1 digits), none, List.append_nil]

theorem readDigits?_append {width : Nat} {ds rest : List Char} (filled : ds ≠ [])
    (digits : ds.all Char.isDigit = true) (fits : ds.length ≤ width)
    (stops : ds.length = width ∨ ∀ c ∈ rest.head?, c.isDigit = false) :
    readDigits? width (ds ++ rest) = some (decimalValue ds, rest) := by
  rw [readDigits?, takeWhile_take_append digits fits stops]
  cases ds with
  | nil => exact absurd rfl filled
  | cons c cs => exact congrArg (fun tail => some (_, tail)) List.drop_left

theorem readDigits?_twoDigits (n : Nat) (rest : List Char) :
    readDigits? 2 (twoDigits n ++ rest) = some (n % 100, rest) := by
  have length : (twoDigits n).length = 2 := rfl
  rw [readDigits?_append (by simp [twoDigits]) (by simp [twoDigits]) (Nat.le_of_eq length)
    (.inl length), decimalValue_twoDigits]

/-! ## Years -/

/-- The digits of a year. -/
def yearDigits (n : Nat) : List Char := if n < 10000 then fourDigits n else Nat.toDigits 10 n

theorem yearChars_eq (year : Int) : yearChars year =
    if 0 ≤ year ∧ year < 10000 then yearDigits year.natAbs
    else (if year < 0 then '-' else '+') :: yearDigits year.natAbs :=
  rfl

theorem yearDigits_spec (n : Nat) : yearDigits n ≠ [] ∧
    (yearDigits n).all Char.isDigit = true ∧ decimalValue (yearDigits n) = n := by
  rw [yearDigits]
  split
  · next four =>
    rw [decimalValue_fourDigits, Nat.mod_eq_of_lt four]
    simp [fourDigits, twoDigits]
  · refine ⟨Nat.toDigits_ne_nil, List.all_eq_true.2 fun c mem => ?_, decimalValue_toDigits n⟩
    exact Nat.isDigit_of_mem_toDigits (by decide) (by decide) mem

theorem readYear?_of_isDigit {c : Char} (h : c.isDigit = true) (cs : List Char) :
    readYear? (c :: cs) = (readDigits? 4 (c :: cs)).map fun (n, rest) => ((n : Int), rest) := by
  have noSign : c ≠ '-' ∧ c ≠ '+' := by constructor <;> rintro rfl <;> cases h
  rw [readYear?]
  · rintro _ ⟨⟩
    exact noSign.1 rfl
  · rintro _ ⟨⟩
    exact noSign.2 rfl

/-- A year of four digits reads back without a sign, and any other year with one. -/
theorem readYear?_yearChars (year : Int) (rest : List Char) :
    readYear? (yearChars year ++ '-' :: rest) = some (year, '-' :: rest) := by
  have ⟨filled, digits, value⟩ := yearDigits_spec year.natAbs
  by_cases four : 0 ≤ year ∧ year < 10000
  · have length : (fourDigits year.natAbs).length = 4 := rfl
    have first : (lastDigit (year.natAbs / 100 / 10)).isDigit = true := isDigit_lastDigit _
    have whole : yearDigits year.natAbs = fourDigits year.natAbs := if_pos (by omega)
    have sign : ((year.natAbs : Nat) : Int) = year := by omega
    rw [whole] at filled digits value
    have read : readDigits? 4 (fourDigits year.natAbs ++ '-' :: rest) = some (_, '-' :: rest) :=
      readDigits?_append filled digits (Nat.le_of_eq length) (.inl length)
    rw [yearChars_of_four four]
    refine (readYear?_of_isDigit first _).trans ?_
    refine (congrArg (Option.map _) read).trans ?_
    rw [value]
    exact congrArg (fun n => some (n, _)) sign
  · have read : readAllDigits? (yearDigits year.natAbs ++ '-' :: rest) =
        some (year.natAbs, '-' :: rest) := by
      rw [readAllDigits?, readDigits?_append filled digits (by simp)
        (.inr (by simp)), value]
    rw [yearChars_eq, if_neg four]
    split
    · rw [List.cons_append, readYear?, read]
      simp only [Option.map_some]
      rw [Int.ofNat_natAbs_of_nonpos (by omega), Int.neg_neg]
    · rw [List.cons_append, readYear?, read]
      simp only [Option.map_some]
      rw [Int.natAbs_of_nonneg (by omega)]

/-! ## Slots and marks -/

theorem readItems?_twoDigits {part : Part} (h : part ≠ .year) {n : Nat} (bound : n < 100)
    (items : List Item) (r : Instant.Reading) (rest : List Char) :
    readItems? (.slot part :: items) r (twoDigits n ++ rest) =
      readItems? items (setPart r n part) rest := by
  have solid : dropBlanks (twoDigits n ++ rest) = twoDigits n ++ rest :=
    dropBlanks_eq_self (by simp [twoDigits, isBlank_lastDigit])
  have read : readPart? part (twoDigits n ++ rest) = some ((n : Int), rest) := by
    have digits : readPart? part (twoDigits n ++ rest) =
        (readDigits? 2 (twoDigits n ++ rest)).map fun (n, rest) => ((n : Int), rest) := by
      cases part <;> first | rfl | exact absurd rfl h
    rw [digits, readDigits?_twoDigits, Option.map_some, Nat.mod_eq_of_lt bound]
  rw [readItems?, solid, read]

theorem readItems?_yearChars (year : Int) (items : List Item) (r : Instant.Reading)
    (rest : List Char) : readItems? (.slot .year :: items) r (yearChars year ++ '-' :: rest) =
      readItems? items (setPart r year .year) ('-' :: rest) := by
  have solid : dropBlanks (yearChars year ++ '-' :: rest) = yearChars year ++ '-' :: rest := by
    obtain ⟨c, cs, front, solid, -⟩ := yearChars_eq_cons year
    exact dropBlanks_eq_self (by simp [front, solid])
  have read : readPart? .year (yearChars year ++ '-' :: rest) = some (year, '-' :: rest) :=
    readYear?_yearChars year rest
  rw [readItems?, solid, read]

theorem readItems?_mark {c : Char} (solid : Character.isBlank c = false) (items : List Item)
    (r : Instant.Reading) (rest : List Char) :
    readItems? (.gap :: .mark c :: items) r (c :: rest) = readItems? items r rest := by
  rw [readItems?, dropBlanks_eq_self (by simpa using solid), readItems?, if_pos rfl]

/-! ## Fractions -/

/-- A fraction of up to nine digits is read in nanoseconds. -/
theorem readNanos?_lastDigits {k : Nat} (some : 0 < k) (fits : k ≤ 9) (n : Nat) :
    readNanos? ('.' :: (lastDigits k n ++ ['Z'])) =
      .some (n % 10 ^ k * 10 ^ (9 - k), ['Z']) := by
  have length := length_lastDigits k n
  have digits := all_lastDigits k n
  have filled : lastDigits k n ≠ [] := by
    rw [← List.length_pos_iff, length]
    exact some
  have stops : ∀ c ∈ (['Z'] : List Char).head?, c.isDigit = false := by rintro _ ⟨⟩; decide
  have front : (lastDigits k n ++ ['Z']).takeWhile Char.isDigit = lastDigits k n := by
    have whole : ((lastDigits k n ++ ['Z']).take (k + 1)).takeWhile Char.isDigit = _ :=
      takeWhile_take_append digits (by omega) (.inr stops)
    rwa [List.take_of_length_le (by simp [length])] at whole
  have back : (lastDigits k n ++ ['Z']).dropWhile Char.isDigit = ['Z'] := by
    have split := List.takeWhile_append_dropWhile (p := Char.isDigit) (l := lastDigits k n ++ ['Z'])
    rw [front] at split
    exact List.append_cancel_left split
  rw [readNanos?, readDigits?_append filled digits (by omega) (.inr stops)]
  simp only [front, back, length, decimalValue_lastDigits, Nat.min_eq_left fits]
  rfl

/-- The fraction of a second reads back. -/
theorem readNanos?_fractionChars {nanos : Nat} (h : nanos < nanosPerSecond) :
    readNanos? (Instant.fractionChars nanos ++ ['Z']) = some (nanos, ['Z']) := by
  rw [nanosPerSecond] at h
  rw [Instant.fractionChars]
  split
  · next none => rw [none]; rfl
  · split
    · rw [List.cons_append, readNanos?_lastDigits (by decide) (by decide)]
      have value : nanos / 1000000 % 10 ^ 3 * 10 ^ (9 - 3) = nanos := by omega
      rw [value]
    · split
      · rw [List.cons_append, readNanos?_lastDigits (by decide) (by decide)]
        have value : nanos / 1000 % 10 ^ 6 * 10 ^ (9 - 6) = nanos := by omega
        rw [value]
      · rw [List.cons_append, readNanos?_lastDigits (by decide) (by decide)]
        have value : nanos % 10 ^ 9 * 10 ^ (9 - 9) = nanos := by omega
        rw [value]

/-! ## Written instants -/

theorem readItems?_date (year : Int) {month day : Nat} (hm : month < 100) (hd : day < 100)
    (rest : List Char) :
    readItems? (loosen datePattern) {} (Date.chars ⟨year, month, day⟩ ++ rest) =
      some ({ year, month, day }, rest) := by
  have pattern : loosen datePattern = [.slot .year, .gap, .mark '-', .slot .month, .gap,
    .mark '-', .slot .day] := rfl
  rw [pattern, Date.chars]
  simp only [List.append_assoc, List.cons_append]
  rw [readItems?_yearChars, readItems?_mark (by decide), readItems?_twoDigits (by decide) hm,
    readItems?_mark (by decide), readItems?_twoDigits (by decide) hd]
  rfl

theorem readItems?_time {hour minute second : Nat} (hh : hour < 100) (hm : minute < 100)
    (hs : second < 100) (r : Instant.Reading) (rest : List Char) :
    readItems? (loosen secondPattern) r
        (twoDigits hour ++ ':' :: (twoDigits minute ++ ':' :: (twoDigits second ++ rest))) =
      some ({ r with hour, minute, second }, rest) := by
  have pattern : loosen secondPattern = [.slot .hour, .gap, .mark ':', .slot .minute, .gap,
    .mark ':', .slot .second] := rfl
  rw [pattern, readItems?_twoDigits (by decide) hh, readItems?_mark (by decide),
    readItems?_twoDigits (by decide) hm, readItems?_mark (by decide),
    readItems?_twoDigits (by decide) hs]
  rfl

/-- The relaxed form reads what a clock shows, with its fraction. -/
theorem readRelaxed?_chars {r : Instant.Reading} (valid : r.IsValid) :
    readRelaxed? (r.chars ++ Instant.fractionChars r.nanos ++ ['Z']) =
      Instant.ofReading? r 0 := by
  have ⟨_, _, date, hour, minute, second, nanos⟩ := valid
  have ⟨_, month, day⟩ := date.bounds
  simp only [Instant.Reading.date] at month day
  have fields : r.chars ++ Instant.fractionChars r.nanos ++ ['Z'] = r.date.chars ++
      'T' :: (twoDigits r.hour ++ ':' :: (twoDigits r.minute ++ ':' :: (twoDigits r.second ++
        (Instant.fractionChars r.nanos ++ ['Z'])))) := by
    rw [Instant.Reading.chars]
    simp only [List.append_assoc, List.cons_append]
  rw [fields, readRelaxed?]
  refine (bind_of_eq_some (readItems?_date r.year (by omega) (by omega) _) _).trans ?_
  refine (bind_of_eq_some (rfl : readSeparator? ('T' :: _) = some _) _).trans ?_
  refine (bind_of_eq_some
    (readItems?_time (by omega) (by omega) (by omega) _ _) _).trans ?_
  refine (bind_of_eq_some (readNanos?_fractionChars nanos) _).trans ?_
  show (if (dropBlanks []).isEmpty ∧ (0 : Int).natAbs < 86400 then Instant.ofReading? r 0
    else none) = _
  exact if_pos ⟨rfl, by decide⟩

/-- An instant that is written with its fraction reads back. -/
theorem ofRelaxed?_writtenExactly (t : Instant) : ofRelaxed? t.writtenExactly = some t := by
  rw [ofRelaxed?, Instant.writtenExactly, String.toList_ofList,
    readRelaxed?_chars t.isValid_reading, t.ofReading?_reading]

end KnowledgeGraph.Time

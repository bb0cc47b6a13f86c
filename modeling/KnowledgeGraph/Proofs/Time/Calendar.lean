import Mathlib.Algebra.GroupWithZero.Nat
import Mathlib.Algebra.Order.BigOperators.Group.List
import Mathlib.Algebra.Order.Group.Nat
import KnowledgeGraph.Time.Calendar

/-!
# The calendar counts days

A day number has a date (`isValid_ofDayNumber`), and the date has that number
(`dayNumber_ofDayNumber`).  Both follow from what the two halves of `ofDayNumber` find: a year and a
day within it (`yearAndDay_spec`), and a month and a day within it (`monthAndDay_spec`).  The
numbers have the order of the dates (`dayNumber_lt_of_before`, `before_of_dayNumber_lt`).
-/

namespace KnowledgeGraph.Date

/-! ## Days within a year -/

/-- The length of a year. -/
def daysInYear (year : Int) : Nat := if isLeap year then 366 else 365

theorem sum_monthLengths (year : Int) : (monthLengths year).sum = daysInYear year := by
  cases leap : isLeap year <;> simp [monthLengths, daysInYear, leap]

theorem daysBeforeMonth_eq (year : Int) (month : Nat) :
    daysBeforeMonth year month = ((monthLengths year).take (month - 1)).sum :=
  List.sum_eq_foldl.symm

/-- A day within the given months falls into one of them. -/
theorem monthAndDay_spec {lengths : List Nat} {day : Nat} (h : day < lengths.sum) (first : Nat) :
    ∃ k d, monthAndDay lengths first day = (first + k, d + 1) ∧ d < lengths.getD k 0 ∧
      (lengths.take k).sum + d = day := by
  induction lengths generalizing first day with
  | nil => simp at h
  | cons length lengths ih =>
    rw [monthAndDay]
    by_cases within : day < length
    · exact ⟨0, day, by simp [within], by simpa using within, by simp⟩
    · rw [List.sum_cons] at h
      have later : day - length < lengths.sum := by omega
      obtain ⟨k, d, eq, lt, sum⟩ := ih later (first + 1)
      refine ⟨k + 1, d, ?_, by simpa using lt, ?_⟩
      · rw [if_neg within, eq, Nat.add_right_comm, Nat.add_assoc]
      · rw [List.take_succ_cons, List.sum_cons]
        omega

/-! ## Bounds of a date -/

theorem le_of_mem_monthLengths {year : Int} {n : Nat} (h : n ∈ monthLengths year) : n ≤ 31 := by
  simp only [monthLengths, List.mem_cons, List.not_mem_nil, or_false] at h
  split at h <;> omega

/-- The month of a date is one of twelve, and its day one of at most 31. -/
theorem IsValid.bounds {d : Date} (h : d.IsValid) : 1 ≤ d.month ∧ d.month ≤ 12 ∧ d.day ≤ 31 := by
  have ⟨least, most⟩ := h
  rw [daysInMonth] at most
  split at most
  · omega
  · have twelve : (monthLengths d.year).length = 12 := rfl
    rw [List.getD_eq_getElem?_getD] at most
    by_cases within : d.month - 1 < (monthLengths d.year).length
    · rw [List.getElem?_eq_getElem within, Option.getD_some] at most
      have := le_of_mem_monthLengths (List.getElem_mem within)
      omega
    · rw [List.getElem?_eq_none (by omega), Option.getD_none] at most
      omega

/-! ## Days within periods of years -/

section Periods

-- A year is the `d`-th of its 4 years, which are the `c`-th of their 100, and so on.
variable {a b c d : Int} (hb : 0 ≤ b ∧ b ≤ 3) (hc : 0 ≤ c ∧ c ≤ 24) (hd : 0 ≤ d ∧ d ≤ 3)

include hb hc hd

theorem daysBeforeYear_periods : daysBeforeYear (400 * a + 100 * b + 4 * c + d + 1) =
    146097 * a + 36524 * b + 1461 * c + 365 * d := by
  simp only [daysBeforeYear]
  have by4 : (400 * a + 100 * b + 4 * c + d + 1 - 1) / 4 = 100 * a + 25 * b + c := by omega
  have by100 : (400 * a + 100 * b + 4 * c + d + 1 - 1) / 100 = 4 * a + b := by omega
  have by400 : (400 * a + 100 * b + 4 * c + d + 1 - 1) / 400 = a := by omega
  rw [by4, by100, by400]
  omega

/-- The last of 4 years is a leap year, except at the end of a century that does not end a period of
400 years. -/
theorem isLeap_periods : isLeap (400 * a + 100 * b + 4 * c + d + 1) = true ↔
    d = 3 ∧ (c < 24 ∨ b = 3) := by
  simp only [isLeap, Bool.and_eq_true, Bool.or_eq_true, beq_iff_eq, bne_iff_ne]
  omega

end Periods

theorem daysBeforeYear_mono {y z : Int} (h : y ≤ z) : daysBeforeYear y ≤ daysBeforeYear z := by
  obtain ⟨n, rfl⟩ := Int.le.dest h
  clear h
  induction n with
  | zero => simp
  | succ n ih =>
    refine Int.le_trans ih ?_
    simp only [daysBeforeYear]
    omega

/-- A day falls into a year. -/
theorem yearAndDay_spec (days : Int) :
    daysBeforeYear (yearAndDay days).1 + (yearAndDay days).2 = days ∧
      (yearAndDay days).2 < daysInYear (yearAndDay days).1 := by
  simp only [yearAndDay]
  generalize ha : days / 146097 = a
  generalize hin400 : days % 146097 = in400
  generalize hb : min (in400 / 36524) 3 = b
  generalize hin100 : in400 - b * 36524 = in100
  generalize hc : in100 / 1461 = c
  generalize hin4 : in100 % 1461 = in4
  generalize hd : min (in4 / 365) 3 = d
  have bounds : (0 ≤ b ∧ b ≤ 3) ∧ 0 ≤ in100 ∧ in100 ≤ 36524 ∧ (in100 = 36524 → b = 3) := by omega
  have ⟨hb, _⟩ := bounds
  have hc : 0 ≤ c ∧ c ≤ 24 := by omega
  have hd : 0 ≤ d ∧ d ≤ 3 := by omega
  have leap := isLeap_periods (a := a) hb hc hd
  rw [daysBeforeYear_periods hb hc hd]
  constructor
  · omega
  · simp only [daysInYear, leap]
    split <;> omega

/-! ## Dates of day numbers -/

/-- The parts of the date of a day number. -/
theorem ofDayNumber_spec (n : Int) : ∃ k d, (ofDayNumber n).month = 1 + k ∧
    (ofDayNumber n).day = d + 1 ∧ d < (monthLengths (ofDayNumber n).year).getD k 0 ∧
      daysBeforeYear (ofDayNumber n).year +
        (((monthLengths (ofDayNumber n).year).take k).sum + d : Nat) = n + epochOffset := by
  have ⟨number, within⟩ := yearAndDay_spec (n + epochOffset)
  rw [← sum_monthLengths] at within
  obtain ⟨k, d, eq, lt, sum⟩ := monthAndDay_spec within 1
  refine ⟨k, d, congrArg Prod.fst eq, congrArg Prod.snd eq, lt, ?_⟩
  rw [← sum] at number
  exact number

/-- The date of a day number exists. -/
theorem isValid_ofDayNumber (n : Int) : (ofDayNumber n).IsValid := by
  obtain ⟨k, d, month, day, lt, -⟩ := ofDayNumber_spec n
  rw [IsValid, daysInMonth, month, day, if_neg (by omega), Nat.add_sub_cancel_left]
  omega

/-- The date of a day number has that number. -/
theorem dayNumber_ofDayNumber (n : Int) : (ofDayNumber n).dayNumber = n := by
  obtain ⟨k, d, month, day, -, number⟩ := ofDayNumber_spec n
  rw [dayNumber, daysBeforeMonth_eq, month, day, Nat.add_sub_cancel_left]
  omega

/-! ## Order of dates -/

/-- A date comes before another: in an earlier year, or in an earlier month or on an earlier day of
the same one. -/
def Before (d e : Date) : Prop :=
  d.year < e.year ∨ d.year = e.year ∧
    (d.month < e.month ∨ d.month = e.month ∧ d.day < e.day)

/-- A year ends where the next one begins. -/
theorem daysBeforeYear_succ (year : Int) :
    daysBeforeYear (year + 1) = daysBeforeYear year + daysInYear year := by
  simp only [daysBeforeYear, daysInYear, isLeap, Bool.and_eq_true, Bool.or_eq_true, beq_iff_eq,
    bne_iff_ne]
  split <;> omega

/-- The months up to one have no more days than the months before a later one. -/
theorem sum_take_le_sum_take (lengths : List Nat) {j k : Nat} (h : j ≤ k) :
    (lengths.take j).sum ≤ (lengths.take k).sum :=
  (List.take_sublist_take_left h).sum_le_sum (by simp)

/-- The last day of a month. -/
theorem daysBeforeMonth_add_day_le {d : Date} (h : d.IsValid) :
    daysBeforeMonth d.year d.month + d.day ≤ ((monthLengths d.year).take d.month).sum := by
  have ⟨first, last, _⟩ := h.bounds
  have ⟨_, most⟩ := h
  have twelve : (monthLengths d.year).length = 12 := rfl
  obtain ⟨k, month⟩ : ∃ k, d.month = k + 1 := ⟨d.month - 1, by omega⟩
  rw [daysInMonth, if_neg (by omega), month, Nat.add_sub_cancel, List.getD_eq_getElem?_getD,
    List.getElem?_eq_getElem (by omega), Option.getD_some] at most
  rw [daysBeforeMonth_eq, month, Nat.add_sub_cancel, List.sum_take_succ _ _ (by omega)]
  omega

/-- Dates are numbered in their order. -/
theorem dayNumber_lt_of_before {d e : Date} (hd : d.IsValid) (he : e.IsValid) (h : d.Before e) :
    d.dayNumber < e.dayNumber := by
  have last := daysBeforeMonth_add_day_le hd
  have ⟨first, _⟩ := he
  rw [dayNumber, dayNumber]
  rcases h with year | ⟨year, month | ⟨month, day⟩⟩
  · have within := sum_take_le_sum_take (monthLengths d.year) hd.bounds.2.1
    have whole : ((monthLengths d.year).take 12).sum = daysInYear d.year := sum_monthLengths d.year
    have next := daysBeforeYear_mono (y := d.year + 1) (z := e.year) year
    rw [daysBeforeYear_succ] at next
    omega
  · have before := sum_take_le_sum_take (monthLengths d.year) (Nat.le_sub_one_of_lt month)
    rw [year, ← daysBeforeMonth_eq, ← year] at before
    rw [← year]
    omega
  · rw [year, month]
    omega

theorem before_of_dayNumber_lt {d e : Date} (hd : d.IsValid) (he : e.IsValid)
    (h : d.dayNumber < e.dayNumber) : d.Before e := by
  by_contra no
  have others : e.Before d ∨ e = d := by
    rcases d with ⟨y, m, n⟩
    rcases e with ⟨y', m', n'⟩
    simp only [Before, Date.mk.injEq] at no ⊢
    omega
  rcases others with before | rfl
  · have := dayNumber_lt_of_before he hd before
    omega
  · omega

end KnowledgeGraph.Date

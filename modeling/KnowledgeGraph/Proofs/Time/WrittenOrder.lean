import Mathlib.Data.List.Lex
import KnowledgeGraph.Proofs.Time.Written

/-!
# Written instants sort by time

Instants that are written to the second, with years of four digits, have the order of their bytes
(`written_sorts`).  A later second shows a later reading on the clock, compared from the year down
to the second, where a leap second is second 60 (`reading_before`).  The fields of a reading have
fixed widths and stand in the order in which they are compared, so the reading that comes first is
written with the lesser text (`chars_lt`).
-/

namespace KnowledgeGraph

namespace Instant

variable {s t : Instant}

/-! ## Readings -/

/-- A reading comes before another if it is less in the first field in which they differ. -/
def Reading.Before (r q : Reading) : Prop :=
  r.year < q.year ∨ r.year = q.year ∧ (r.month < q.month ∨ r.month = q.month ∧
    (r.day < q.day ∨ r.day = q.day ∧ (r.hour < q.hour ∨ r.hour = q.hour ∧
      (r.minute < q.minute ∨ r.minute = q.minute ∧ r.second < q.second))))

/-- An instant lies in an earlier second than another.  A leap second comes after the second that
it shares its number with. -/
def InEarlierSecond (s t : Instant) : Prop :=
  s.seconds < t.seconds ∨ s.seconds = t.seconds ∧ s.isLeap = false ∧ t.isLeap = true

/-- A later day has a later date. -/
theorem date_before (h : s.seconds / 86400 < t.seconds / 86400) : s.date.Before t.date := by
  refine Date.before_of_dayNumber_lt (Date.isValid_ofDayNumber _) (Date.isValid_ofDayNumber _) ?_
  rwa [date, date, Date.dayNumber_ofDayNumber, Date.dayNumber_ofDayNumber]

/-- The second that a clock shows is that of the day, or second 60, which ends a minute. -/
theorem second_reading (t : Instant) :
    t.isLeap = false ∧ t.reading.second = t.secondOfDay % 60 ∨
      t.isLeap = true ∧ t.secondOfDay % 60 = 59 ∧ t.reading.second = 60 := by
  cases leap : t.isLeap with
  | false => exact .inl ⟨rfl, by simp [reading, leap]⟩
  | true =>
    have last := t.isInstant.2.2.2 (by simpa [isLeap] using leap)
    have ofDay := t.secondOfDay_eq
    have ends : t.secondOfDay % 60 = 59 := by omega
    exact .inr ⟨rfl, ends, by simp [reading, leap, ends]⟩

/-- An earlier second shows an earlier reading. -/
theorem reading_before (h : s.InEarlierSecond t) : s.reading.Before t.reading := by
  have fields (t : Instant) : t.reading.hour = t.secondOfDay / 3600 ∧
      t.reading.minute = t.secondOfDay / 60 % 60 := ⟨rfl, rfl⟩
  have ⟨hour, minute⟩ := fields s
  have ⟨hour', minute'⟩ := fields t
  have second := s.second_reading
  have second' := t.second_reading
  by_cases day : s.seconds / 86400 < t.seconds / 86400
  · have date : s.reading.date.Before t.reading.date := date_before day
    simp only [Date.Before, Reading.date] at date
    rw [Reading.Before]
    omega
  · have ofDay := s.secondOfDay_eq
    have ofDay' := t.secondOfDay_eq
    have same : s.seconds / 86400 = t.seconds / 86400 := by
      rcases h with earlier | ⟨same, -, -⟩ <;> omega
    have date : s.reading.date = t.reading.date := congrArg Date.ofDayNumber same
    simp only [Reading.date, Date.mk.injEq] at date
    rw [Reading.Before]
    rcases h with earlier | ⟨same, plain, leap⟩
    · -- A leap second still shows the minute that it ends.
      have later : s.secondOfDay < t.secondOfDay := by omega
      omega
    · have equal : s.secondOfDay = t.secondOfDay := by omega
      simp only [plain, leap, reduceCtorEq, false_and, or_false, false_or] at second second'
      omega

/-- An instant that is not after another lies in an earlier second, or in the same one. -/
theorem inEarlierSecond_or_eq (h : s.le t = true) :
    s.InEarlierSecond t ∨ s.truncated = t.truncated := by
  simp only [le, Bool.or_eq_true, Bool.and_eq_true, decide_eq_true_eq, beq_iff_eq] at h
  rcases h with earlier | ⟨same, upTo⟩
  · exact .inl (.inl earlier)
  · cases hs : s.isLeap <;> cases ht : t.isLeap
    · exact .inr (by simp [truncated, same, hs, ht])
    · exact .inl (.inr ⟨same, hs, ht⟩)
    · simp only [isLeap, decide_eq_true_eq, decide_eq_false_iff_not] at hs ht
      omega
    · exact .inr (by simp [truncated, same, hs, ht])

end Instant

/-! ## Fields of fixed width -/

/-- Texts that begin with fields of one width are compared by these fields first. -/
theorem append_lt_append {α : Type} [LT α] {xs ys as bs : List α} (length : xs.length = ys.length)
    (h : xs < ys ∨ xs = ys ∧ as < bs) : xs ++ as < ys ++ bs := by
  rcases h with h | ⟨rfl, h⟩
  · induction h with
    | nil => cases length
    | rel lt => exact .rel lt
    | cons _ ih => exact .cons (ih (by simpa using length))
  · exact List.append_left_lt h

theorem lastDigit_lt {m n : Nat} (h : m % 10 < n % 10) : lastDigit m < lastDigit n := by
  show (lastDigit m).toNat < (lastDigit n).toNat
  rw [toNat_lastDigit, toNat_lastDigit]
  omega

theorem twoDigits_lt {m n : Nat} (h : m % 100 < n % 100) : twoDigits m < twoDigits n := by
  by_cases tens : m / 10 % 10 < n / 10 % 10
  · exact .rel (lastDigit_lt tens)
  · have same : m / 10 % 10 = n / 10 % 10 := by omega
    rw [twoDigits, twoDigits, lastDigit, same]
    exact .cons (.rel (lastDigit_lt (by omega)))

theorem fourDigits_lt {m n : Nat} (h : m % 10000 < n % 10000) : fourDigits m < fourDigits n := by
  by_cases hundreds : m / 100 % 100 < n / 100 % 100
  · exact append_lt_append rfl (.inl (twoDigits_lt hundreds))
  · have tens : m / 100 / 10 % 10 = n / 100 / 10 % 10 := by omega
    have units : m / 100 % 10 = n / 100 % 10 := by omega
    have same : twoDigits (m / 100) = twoDigits (n / 100) := by
      rw [twoDigits, lastDigit, lastDigit, tens, units]
      rfl
    exact append_lt_append rfl (.inr ⟨same, twoDigits_lt (by omega)⟩)

/-- Two digits decide, or leave it to what follows them. -/
theorem twoDigits_append_lt {m n : Nat} {as bs : List Char} (fits : n < 100)
    (h : m < n ∨ m = n ∧ as < bs) : twoDigits m ++ as < twoDigits n ++ bs := by
  refine append_lt_append rfl ?_
  rcases h with lt | ⟨rfl, lt⟩
  · exact .inl (twoDigits_lt (by omega))
  · exact .inr ⟨rfl, lt⟩

/-! ## Texts -/

namespace Instant

/-- The reading that comes first is written with the lesser text. -/
theorem Reading.chars_lt {r q : Reading} (valid : q.IsValid) (plain : 0 ≤ r.year ∧ r.year < 10000)
    (plain' : 0 ≤ q.year ∧ q.year < 10000) (h : r.Before q) :
    r.chars ++ ['Z'] < q.chars ++ ['Z'] := by
  have ⟨_, _, date, hour, minute, second, _⟩ := valid
  have ⟨_, month, day⟩ := date.bounds
  simp only [Reading.date] at month day
  rw [Time.chars_eq_fields plain, Time.chars_eq_fields plain']
  refine append_lt_append rfl ?_
  rcases h with year | ⟨year, h⟩
  · exact .inl (fourDigits_lt (by omega))
  refine .inr ⟨by rw [year], .cons (twoDigits_append_lt (by omega) ?_)⟩
  refine h.imp_right (And.imp_right fun h => .cons (twoDigits_append_lt (by omega) ?_))
  refine h.imp_right (And.imp_right fun h => .cons (twoDigits_append_lt (by omega) ?_))
  refine h.imp_right (And.imp_right fun h => .cons (twoDigits_append_lt (by omega) ?_))
  refine h.imp_right (And.imp_right fun h => .cons (twoDigits_append_lt (by omega) ?_))
  exact .inl h

/-- An instant is written with characters of one byte. -/
theorem Reading.isAscii_chars {r : Reading} (plain : 0 ≤ r.year ∧ r.year < 10000) :
    ∀ c ∈ r.chars ++ ['Z'], c.toNat < 128 := by
  have digit (n : Nat) : (lastDigit n).toNat < 128 := by
    rw [toNat_lastDigit]
    omega
  rw [Time.chars_eq_fields plain]
  simp [-toNat_lastDigit, fourDigits, twoDigits, digit]

end Instant

/-! ## Bytes -/

/-- The bytes of a text. -/
def bytes (s : String) : List UInt8 := s.toByteArray.data.toList

theorem bytes_ofList (cs : List Char) :
    bytes (String.ofList cs) = cs.flatMap String.utf8EncodeChar := by
  show (cs.flatMap String.utf8EncodeChar).toByteArray.data.toList = _
  rw [List.data_toByteArray, List.toList_toArray]

theorem utf8EncodeChar_of_isAscii {c : Char} (h : c.toNat < 128) :
    String.utf8EncodeChar c = [UInt8.ofNat c.toNat] :=
  if_pos (Nat.le_of_lt_succ h)

/-- Texts of characters of one byte have the order of their bytes. -/
theorem bytes_lt_bytes {cs ds : List Char} (hc : ∀ c ∈ cs, c.toNat < 128)
    (hd : ∀ d ∈ ds, d.toNat < 128) (h : cs < ds) :
    bytes (String.ofList cs) < bytes (String.ofList ds) := by
  rw [bytes_ofList, bytes_ofList]
  induction h with
  | @nil d ds =>
    rw [List.flatMap_cons, utf8EncodeChar_of_isAscii (hd d List.mem_cons_self)]
    exact .nil
  | @rel c cs d ds lt =>
    have low := hc c List.mem_cons_self
    have low' := hd d List.mem_cons_self
    rw [List.flatMap_cons, List.flatMap_cons, utf8EncodeChar_of_isAscii low,
      utf8EncodeChar_of_isAscii low']
    refine .rel (UInt8.lt_iff_toNat_lt.2 ?_)
    rw [UInt8.toNat_ofNat', UInt8.toNat_ofNat', Nat.mod_eq_of_lt (by omega),
      Nat.mod_eq_of_lt (by omega)]
    exact lt
  | @cons c cs ds _ ih =>
    rw [List.flatMap_cons, List.flatMap_cons]
    exact List.append_left_lt (ih (fun c hc' => hc c (List.mem_cons_of_mem _ hc'))
      fun d hd' => hd d (List.mem_cons_of_mem _ hd'))

/-! ## Written instants -/

namespace Instant

variable {s t : Instant}

/-- The fraction of a second is not written. -/
theorem written_truncated (t : Instant) : t.truncated.written = t.written := by
  rw [written, reading_truncated]
  rfl

/-- The year of an instant has four digits. -/
def HasPlainYear (t : Instant) : Prop := 0 ≤ t.date.year ∧ t.date.year < 10000

instance (t : Instant) : Decidable t.HasPlainYear := inferInstanceAs (Decidable (_ ∧ _))

theorem bytes_written_lt (hs : s.HasPlainYear) (ht : t.HasPlainYear) (h : s.InEarlierSecond t) :
    bytes s.written < bytes t.written :=
  bytes_lt_bytes (Reading.isAscii_chars hs) (Reading.isAscii_chars ht)
    (Reading.chars_lt t.isValid_reading hs ht (reading_before h))

/-- Instants whose years have four digits read back from their writing to the second, without their
fractions, and the bytes that are written have the order of time. -/
theorem written_sorts :
    (∀ t : Instant, t.HasPlainYear → Time.ofText? t.written = some t.truncated) ∧
      ∀ s t : Instant, s.HasPlainYear → t.HasPlainYear → s.le t = true →
        bytes s.written ≤ bytes t.written ∧
          (s.truncated ≠ t.truncated → bytes s.written < bytes t.written) := by
  refine ⟨fun t plain => (Time.ofText?_written t).trans (if_pos plain), ?_⟩
  intro s t hs ht le
  rcases inEarlierSecond_or_eq le with earlier | same
  · have lt := bytes_written_lt hs ht earlier
    exact ⟨List.le_of_lt lt, fun _ => lt⟩
  · have equal : s.written = t.written := by rw [← written_truncated, same, written_truncated]
    exact ⟨equal ▸ List.le_refl _, fun differ => absurd same differ⟩

/-- The middle of a leap second, and the first second of the year that it makes wait. -/
theorem written_sorts_newYear :
    let leap : Instant := ⟨1483228799, 1500000000, by decide⟩
    let start : Instant := ⟨1483228800, 0, by decide⟩
    Time.ofText? leap.written = some ⟨1483228799, 1000000000, by decide⟩ ∧
      bytes leap.written < bytes start.written := by
  intro leap start
  have plain : leap.HasPlainYear ∧ start.HasPlainYear := by decide
  have ⟨readsBack, sorted⟩ := written_sorts
  exact ⟨readsBack leap plain.1,
    (sorted leap start plain.1 plain.2 (by decide)).2 (by decide)⟩

end Instant

end KnowledgeGraph

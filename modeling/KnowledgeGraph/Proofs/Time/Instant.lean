import KnowledgeGraph.Proofs.Time.Calendar
import KnowledgeGraph.Time.Instant

/-!
# What a clock shows at an instant

A clock shows a date and a time of day that exist (`isValid_reading`), and they tell the instant
(`ofReading?_reading`).
-/

namespace KnowledgeGraph.Instant

theorem of?_eq_some (t : Instant) : of? t.seconds t.nanos = some t := by
  rw [of?, dif_pos t.isInstant]

theorem secondOfDay_eq (t : Instant) : (t.secondOfDay : Int) = t.seconds % 86400 := by
  rw [secondOfDay]
  omega

theorem secondOfDay_lt (t : Instant) : t.secondOfDay < 86400 := by
  rw [secondOfDay]
  omega

/-- The years of instants. -/
theorem year_bounds (t : Instant) : -262143 ≤ t.date.year ∧ t.date.year ≤ 262142 := by
  have ⟨earliest, latest, _⟩ := t.isInstant
  have ⟨number, within⟩ := Date.yearAndDay_spec (t.seconds / 86400 + Date.epochOffset)
  have year : (Date.yearAndDay (t.seconds / 86400 + Date.epochOffset)).1 = t.date.year := rfl
  have length : Date.daysInYear t.date.year ≤ 366 := by
    rw [Date.daysInYear]
    split <;> omega
  have epoch : Date.epochOffset = 719162 := rfl
  rw [year] at number within
  simp only [earliestSecond, latestSecond] at earliest latest
  constructor
  · refine Int.not_lt.1 fun early => ?_
    have before := Date.daysBeforeYear_mono (y := t.date.year) (z := -262144) (by omega)
    have count : Date.daysBeforeYear (-262144) = -95746496 := by decide
    omega
  · refine Int.not_lt.1 fun late => ?_
    have after := Date.daysBeforeYear_mono (y := 262143) (z := t.date.year) (by omega)
    have count : Date.daysBeforeYear 262143 = 95745399 := by decide
    omega

/-- A clock shows a date and a time of day that exist. -/
theorem isValid_reading (t : Instant) : t.reading.IsValid := by
  have ⟨first, last⟩ := t.year_bounds
  have date : t.date.IsValid := Date.isValid_ofDayNumber _
  have day := t.secondOfDay_lt
  refine ⟨first, last, date, ?_, ?_, ?_, ?_⟩
  · simp only [reading]
    omega
  · simp only [reading]
    omega
  · simp only [reading]
    split <;> omega
  · simp only [reading, nanosPerSecond]
    omega

/-- What a clock shows tells the instant. -/
theorem ofReading?_reading (t : Instant) : ofReading? t.reading 0 = some t := by
  have ⟨_, _, nanos, leap⟩ := t.isInstant
  have day : t.reading.date.dayNumber = t.seconds / 86400 := Date.dayNumber_ofDayNumber _
  have second := t.secondOfDay_eq
  have seconds : t.reading.date.dayNumber * 86400 +
      (t.reading.hour * 3600 + t.reading.minute * 60 + min t.reading.second 59 : Nat) - 0 =
        t.seconds := by
    rw [day]
    simp only [reading]
    split
    · next h =>
      have := leap (by simpa [isLeap] using h)
      omega
    · omega
  have fraction : (if t.reading.second = 60 then t.reading.nanos + nanosPerSecond
      else t.reading.nanos) = t.nanos := by
    by_cases h : t.isLeap
    · have late : nanosPerSecond ≤ t.nanos := by simpa [isLeap] using h
      have last := leap late
      have shown : t.reading.second = 60 := by
        simp only [reading, if_pos h]
        omega
      rw [if_pos shown]
      simp only [reading, nanosPerSecond] at late nanos ⊢
      omega
    · have early : ¬ nanosPerSecond ≤ t.nanos := by simpa [isLeap] using h
      have shown : t.reading.second ≠ 60 := by
        simp only [reading, if_neg h]
        omega
      rw [if_neg shown]
      exact Nat.mod_eq_of_lt (by omega)
  rw [ofReading?, if_pos t.isValid_reading]
  simp only [seconds, fraction]
  exact of?_eq_some t

/-! ## Whole seconds -/

/-- An instant without the fraction of its second.  A leap second stays one. -/
def truncated (t : Instant) : Instant where
  seconds := t.seconds
  nanos := if t.isLeap then nanosPerSecond else 0
  isInstant := by
    have ⟨earliest, latest, nanos, leap⟩ := t.isInstant
    refine ⟨earliest, latest, ?_, ?_⟩
    · split <;> simp [nanosPerSecond]
    · split
      · next h => exact fun _ => leap (by simpa [isLeap] using h)
      · simp [nanosPerSecond]

theorem isLeap_truncated (t : Instant) : t.truncated.isLeap = t.isLeap := by
  have nanos : t.truncated.nanos = if t.isLeap then nanosPerSecond else 0 := rfl
  rw [isLeap, nanos]
  cases t.isLeap <;> rfl

/-- A clock shows an instant without its fraction as it shows the instant, save for the fraction. -/
theorem reading_truncated (t : Instant) : t.truncated.reading = { t.reading with nanos := 0 } := by
  have fraction : t.truncated.nanos % nanosPerSecond = 0 := by
    simp only [truncated]
    split <;> simp
  rw [reading, isLeap_truncated, fraction]
  rfl

end KnowledgeGraph.Instant

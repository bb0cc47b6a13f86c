import KnowledgeGraph.Number.Whole
import KnowledgeGraph.Proofs.Time.Instant
import KnowledgeGraph.Time.Decay
import KnowledgeGraph.Time.FreeText

/-!
# Ages of posts

A later post has no greater age, as long as no leap second is near
(`ages_fall_but_for_leapSeconds`).  Ages are differences on a calendar, and there a leap second
counts only if it lies between two times of day, whatever the days.  So it falls together with the
second before it or with the one after it (`Overtakes`), and a later post can have an age that is
greater, by two seconds at most.  A post just after a reference in the leap second that ends a day
even has an age of its own (`not_agesFall`).

Differences are computed in seconds and nanoseconds, and no step leaves the whole numbers of 64 bits
(`millisSince64?_eq`).
-/

namespace KnowledgeGraph

namespace Instant

variable {r s t : Instant}

/-! ## Differences -/

/-- The leap second that counts between two instants. -/
def leapBetween (t s : Instant) : Int :=
  if s.secondOfDay < t.secondOfDay ∧ s.isLeap then 1
  else if t.secondOfDay < s.secondOfDay ∧ t.isLeap then -1
  else 0

/-- Days and times of day make up the seconds. -/
theorem nanosSince_eq (t s : Instant) : t.nanosSince s =
    (t.seconds - s.seconds + leapBetween t s) * 1000000000 + ((t.nanos : Int) - s.nanos) := by
  have later := t.secondOfDay_eq
  have earlier := s.secondOfDay_eq
  have seconds : (t.seconds / 86400 - s.seconds / 86400) * 86400 +
      ((t.secondOfDay : Int) - s.secondOfDay) = t.seconds - s.seconds := by omega
  show (_ * 86400 + _ + leapBetween t s) * (1000000000 : Int) + _ = _
  rw [seconds]

theorem isLeap_iff : t.isLeap = true ↔ 1000000000 ≤ t.nanos := decide_eq_true_iff

/-- A leap second counts in two cases. -/
theorem leapBetween_cases (t s : Instant) :
    (leapBetween t s = 1 ∧ s.secondOfDay < t.secondOfDay ∧ 1000000000 ≤ s.nanos) ∨
      (leapBetween t s = -1 ∧ t.secondOfDay < s.secondOfDay ∧ 1000000000 ≤ t.nanos) ∨
      (leapBetween t s = 0 ∧ (s.secondOfDay < t.secondOfDay → s.nanos < 1000000000) ∧
        (t.secondOfDay < s.secondOfDay → t.nanos < 1000000000)) := by
  simp only [leapBetween, isLeap_iff]
  by_cases first : s.secondOfDay < t.secondOfDay ∧ 1000000000 ≤ s.nanos
  · exact .inl ⟨if_pos first, first⟩
  · by_cases second : t.secondOfDay < s.secondOfDay ∧ 1000000000 ≤ t.nanos
    · exact .inr (.inl ⟨by rw [if_neg first, if_pos second], second⟩)
    · exact .inr (.inr ⟨by rw [if_neg first, if_neg second], by omega, by omega⟩)

/-- The nanoseconds of an instant reach 10⁹ at the end of a minute only. -/
theorem clock_bounds (t : Instant) : (t.secondOfDay : Int) = t.seconds % 86400 ∧
    t.nanos < 2000000000 ∧ (1000000000 ≤ t.nanos → t.seconds % 60 = 59) :=
  ⟨t.secondOfDay_eq, t.isInstant.2.2⟩

theorem le_iff : s.le t = true ↔
    s.seconds < t.seconds ∨ s.seconds = t.seconds ∧ s.nanos ≤ t.nanos := by
  simp [le]

/-! ## Differences in their order -/

/-- Seen from `r`, an instant overtakes an earlier one.  From a later time of day, a leap second
falls together with the second before it, and from an earlier one with the second after it.  Of two
seconds that fall together, the later one has instants that overtake instants of the other. -/
def Overtakes (r s t : Instant) : Prop :=
  s.isLeap = false ∧ t.isLeap = true ∧ s.seconds = t.seconds ∧
      t.secondOfDay < r.secondOfDay ∧ t.nanos < s.nanos + 1000000000 ∨
    s.isLeap = true ∧ t.seconds = s.seconds + 1 ∧ r.secondOfDay ≤ s.secondOfDay ∧
      t.nanos + 1000000000 < s.nanos

/-- Seen from an instant that is in no leap second, a later instant is nearer if and only if it does
not overtake. -/
theorem nanosSince_le_iff (plain : r.isLeap = false) (h : s.le t = true) :
    r.nanosSince t ≤ r.nanosSince s ↔ ¬ r.Overtakes s t := by
  rw [le_iff] at h
  simp only [Overtakes, ← Bool.not_eq_true, isLeap_iff] at plain ⊢
  rw [nanosSince_eq, nanosSince_eq]
  -- A leap second counts only if its time of day is before that of `r`.
  have counted (t : Instant) :
      r.leapBetween t = 1 ∧ t.secondOfDay < r.secondOfDay ∧ 1000000000 ≤ t.nanos ∨
        r.leapBetween t = 0 ∧ (t.secondOfDay < r.secondOfDay → t.nanos < 1000000000) := by
    have spec := leapBetween_cases r t
    omega
  have bounds := s.clock_bounds
  have bounds' := t.clock_bounds
  rcases counted s with ⟨hs, _, _⟩ | ⟨hs, _⟩ <;> rcases counted t with ⟨ht, _, _⟩ | ⟨ht, _⟩ <;>
    rw [hs, ht] <;> rcases h with h | ⟨h, h'⟩ <;> omega

/-- Later instants are nearer, where they are three seconds apart. -/
theorem nanosSince_le (h : s.seconds + 3 ≤ t.seconds) : r.nanosSince t ≤ r.nanosSince s := by
  rw [nanosSince_eq, nanosSince_eq]
  have counted := leapBetween_cases r s
  have counted' := leapBetween_cases r t
  have bounds := s.clock_bounds
  have bounds' := t.clock_bounds
  omega

/-- Later instants are nearer, or farther by less than two seconds. -/
theorem nanosSince_lt (h : s.le t = true) : r.nanosSince t < r.nanosSince s + 2000000000 := by
  rw [le_iff] at h
  rw [nanosSince_eq, nanosSince_eq]
  have counted := leapBetween_cases r s
  have counted' := leapBetween_cases r t
  have bounds := s.clock_bounds
  have bounds' := t.clock_bounds
  omega

/-- An instant lies in the leap second at the end of a day, and the other one in the first second of
the next day, at least a millisecond less far into it. -/
def OutlastsDay (r t : Instant) : Prop :=
  r.isLeap = true ∧ r.secondOfDay = 86399 ∧ t.seconds = r.seconds + 1 ∧
    t.nanos + 1001000000 ≤ r.nanos

/-- An instant that is not before another is at least a millisecond before it in one case. -/
theorem le_nanosSince_iff (h : r.le t = true) : 1000000 ≤ r.nanosSince t ↔ r.OutlastsDay t := by
  rw [le_iff] at h
  rw [nanosSince_eq, OutlastsDay, isLeap_iff]
  have counted := leapBetween_cases r t
  have bounds := r.clock_bounds
  have bounds' := t.clock_bounds
  omega

/-! ## Differences in 64 bits -/

/-- A whole number, if 64 bits hold it with a sign. -/
def signed? (n : Int) : Option Int := if Number.IsSigned n then some n else none

theorem signed?_of_bounds {n : Int} (h : -2 ^ 62 ≤ n ∧ n ≤ 2 ^ 62) : signed? n = some n := by
  refine if_pos ?_
  simp only [Number.IsSigned, Number.leastSigned, Number.greatestSigned]
  omega

/-- A number that fits is handed over. -/
theorem signed?_bind {β : Type} {n : Int} (h : -2 ^ 62 ≤ n ∧ n ≤ 2 ^ 62) (f : Int → Option β) :
    (signed? n >>= f) = f n := by
  rw [signed?_of_bounds h]
  rfl

/-- The seconds and nanoseconds between two instants, computed in 64 bits.  The days and the times
of day are subtracted apart, and the nanoseconds end up between 0 and 10⁹. -/
def difference64? (t s : Instant) : Option (Int × Int) := do
  let days ← signed? (t.seconds / 86400 - s.seconds / 86400)
  let midnights ← signed? (days * 86400)
  let clock ← signed? ((t.secondOfDay : Int) - s.secondOfDay)
  let clock ← signed? (clock + leapBetween t s)
  let nanos ← signed? ((t.nanos : Int) - s.nanos)
  let clock ← signed? (clock + nanos / 1000000000)
  let seconds ← signed? (midnights + clock)
  return (seconds, nanos % 1000000000)

/-- The whole milliseconds of a number of seconds and nanoseconds, computed in 64 bits.  Below zero
the two are brought to one sign first, and so they are rounded toward zero. -/
def millis64? (seconds nanos : Int) : Option Int := do
  let below := seconds < 0 ∧ 0 < nanos
  let whole ← signed? (if below then seconds + 1 else seconds)
  let part ← signed? (if below then nanos - 1000000000 else nanos)
  let millis ← signed? (whole * 1000)
  signed? (millis + part.tdiv 1000000)

/-- The whole milliseconds between two instants, computed in 64 bits. -/
def millisSince64? (t s : Instant) : Option Int := do
  let (seconds, nanos) ← difference64? t s
  millis64? seconds nanos

/-- The seconds and nanoseconds are those of the exact difference. -/
theorem difference64?_eq (t s : Instant) : ∃ seconds nanos,
    difference64? t s = some (seconds, nanos) ∧ -2 ^ 50 ≤ seconds ∧ seconds ≤ 2 ^ 50 ∧
      0 ≤ nanos ∧ nanos < 1000000000 ∧ t.nanosSince s = seconds * 1000000000 + nanos := by
  have counted := leapBetween_cases t s
  have bounds := t.clock_bounds
  have bounds' := s.clock_bounds
  have ⟨first, last, _⟩ := t.isInstant
  have ⟨first', last', _⟩ := s.isInstant
  simp only [earliestSecond, latestSecond] at first last first' last'
  have leap : -1 ≤ leapBetween t s ∧ leapBetween t s ≤ 1 := by omega
  clear counted
  refine ⟨t.seconds - s.seconds + leapBetween t s + ((t.nanos : Int) - s.nanos) / 1000000000,
    ((t.nanos : Int) - s.nanos) % 1000000000, ?_, by omega, by omega, by omega, by omega, ?_⟩
  · refine (signed?_bind (by omega) _).trans ?_
    refine (signed?_bind (by omega) _).trans ?_
    refine (signed?_bind (by omega) _).trans ?_
    refine (signed?_bind (by omega) _).trans ?_
    refine (signed?_bind (by omega) _).trans ?_
    refine (signed?_bind (by omega) _).trans ?_
    refine (signed?_bind (by omega) _).trans ?_
    exact congrArg (fun n => some (n, _)) (by omega)
  · rw [nanosSince_eq]
    omega

theorem tdiv_eq (n : Int) : n.tdiv 1000000 = if 0 ≤ n then n / 1000000 else -(-n / 1000000) := by
  split
  · next h => exact Int.tdiv_eq_ediv_of_nonneg h
  · next h => rw [← Int.tdiv_eq_ediv_of_nonneg (by omega), Int.neg_tdiv, Int.neg_neg]

/-- The two parts are rounded as their sum is. -/
theorem millis64?_eq {seconds nanos : Int} (low : -2 ^ 50 ≤ seconds) (high : seconds ≤ 2 ^ 50)
    (least : 0 ≤ nanos) (most : nanos < 1000000000) :
    millis64? seconds nanos = some ((seconds * 1000000000 + nanos).tdiv 1000000) := by
  refine (signed?_bind (by split <;> omega) _).trans ?_
  refine (signed?_bind (by split <;> omega) _).trans ?_
  refine (signed?_bind (by split <;> omega) _).trans ?_
  simp only [tdiv_eq]
  refine (signed?_of_bounds ?_).trans (congrArg some ?_)
  · split <;> omega
  · split <;> omega

/-- The milliseconds computed in 64 bits are those between the instants. -/
theorem millisSince64?_eq (t s : Instant) : millisSince64? t s = some (t.millisSince s) := by
  obtain ⟨seconds, nanos, difference, low, high, least, most, exact⟩ := difference64?_eq t s
  rw [millisSince64?, difference, millisSince, exact]
  exact millis64?_eq low high least most

end Instant

/-! ## Ages -/

namespace Decay

open Instant

/-- Ages in milliseconds, rounded down. -/
theorem ageMillis_eq (d : Decay) (t : Instant) :
    d.ageMillis t = max 0 (d.reference.nanosSince t / 1000000) := by
  rw [ageMillis, millisSince, tdiv_eq]
  split <;> omega

/-- A post has no greater age than an earlier one, and none at or after the reference.  No age is
too large for 64 bits. -/
structure AgesFall (d : Decay) : Prop where
  /-- The later of two posts has no greater age. -/
  falls : ∀ s t : Instant, s.le t = true → d.ageMillis t ≤ d.ageMillis s
  /-- A post at or after the reference has no age. -/
  zero : ∀ t : Instant, d.reference.le t = true → d.ageMillis t = 0
  /-- The milliseconds can be computed in 64 bits. -/
  fits : ∀ t : Instant, millisSince64? d.reference t = some (d.reference.millisSince t)

/-- What holds of ages in spite of leap seconds. -/
structure AgesFallButForLeapSeconds (d : Decay) : Prop where
  /-- The later of two posts has no greater age, unless it overtakes the earlier one or the
  reference is in a leap second.  Neither matters if the posts are three seconds apart. -/
  falls : ∀ s t : Instant, s.le t = true →
    d.reference.isLeap = false ∧ ¬ d.reference.Overtakes s t ∨ s.seconds + 3 ≤ t.seconds →
    d.ageMillis t ≤ d.ageMillis s
  /-- The age of the later of two posts is never greater by more than two seconds. -/
  nearly : ∀ s t : Instant, s.le t = true → d.ageMillis t ≤ d.ageMillis s + 2000
  /-- A post at or after the reference has no age, unless a day ends between them with the leap
  second of the reference. -/
  zero : ∀ t : Instant, d.reference.le t = true →
    (d.ageMillis t = 0 ↔ ¬ d.reference.OutlastsDay t)
  /-- The milliseconds can be computed in 64 bits. -/
  fits : ∀ t : Instant, millisSince64? d.reference t = some (d.reference.millisSince t)

/-- Posts have ages in the reverse of their order, but for leap seconds. -/
theorem ages_fall_but_for_leapSeconds (d : Decay) : d.AgesFallButForLeapSeconds where
  falls s t le plain := by
    have nearer : d.reference.nanosSince t ≤ d.reference.nanosSince s :=
      plain.elim (fun plain => (nanosSince_le_iff plain.1 le).2 plain.2) nanosSince_le
    rw [ageMillis_eq, ageMillis_eq]
    omega
  nearly s t le := by
    have nearly := nanosSince_lt (r := d.reference) le
    rw [ageMillis_eq, ageMillis_eq]
    omega
  zero t le := by
    rw [← le_nanosSince_iff le, ageMillis_eq]
    omega
  fits t := millisSince64?_eq d.reference t

/-- Half a second into the leap second at the end of 2016, the first second of 2017 is half a second
ago.  At noon, the first second of 2017 is longer ago than that leap second. -/
theorem not_agesFall :
    let leap : Instant := ⟨1483228799, 1500000000, by decide⟩
    let noon : Instant := ⟨1483272000, 0, by decide⟩
    (Time.ofText? "2016-12-31T23:59:60.5Z" = some leap ∧
      Time.ofText? "2017-01-01T12:00:00Z" = some noon) ∧
      ¬ (Decay.mk 1 leap).AgesFall ∧ ¬ (Decay.mk 1 noon).AgesFall := by
  intro leap noon
  let newYear : Instant := ⟨1483228800, 0, by decide⟩
  refine ⟨⟨rfl, rfl⟩, fun ages => ?_, fun ages => ?_⟩
  · have zero : max 0 (leap.millisSince newYear) = 0 := ages.zero newYear (by decide)
    exact absurd zero (by decide)
  · have falls : max 0 (noon.millisSince newYear) ≤ max 0 (noon.millisSince leap) :=
      ages.falls leap newYear (by decide)
    exact absurd falls (by decide)

end Decay

end KnowledgeGraph

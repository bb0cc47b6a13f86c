import KnowledgeGraph.Time.Calendar

/-!
# Instants

An instant is a whole number of seconds since the start of 1970 and nanoseconds within the
second.  A leap second has no number of its own.  It lies in the last second of its minute,
and its nanoseconds go on from 10⁹.  So instants order by seconds first and nanoseconds next,
and a leap second comes after the whole of the second before it.

The instants span the years from -262143 to 262142.
-/

namespace KnowledgeGraph

/-- The nanoseconds of a second. -/
def nanosPerSecond : Nat := 1000000000

/-- The first second of the year -262143. -/
def earliestSecond : Int := -8334601228800

/-- The last second of the year 262142. -/
def latestSecond : Int := 8210266876799

/-- Whether seconds and nanoseconds make an instant. -/
def IsInstant (seconds : Int) (nanos : Nat) : Prop :=
  earliestSecond ≤ seconds ∧ seconds ≤ latestSecond ∧ nanos < 2 * nanosPerSecond ∧
    (nanosPerSecond ≤ nanos → seconds % 60 = 59)

instance (seconds : Int) (nanos : Nat) : Decidable (IsInstant seconds nanos) :=
  inferInstanceAs (Decidable (_ ∧ _))

/-- A point in time. -/
structure Instant where
  /-- The whole seconds since the start of 1970, rounded down. -/
  seconds : Int
  /-- The nanoseconds within the second, from 10⁹ on in a leap second. -/
  nanos : Nat
  /-- The seconds are in range, and a leap second ends a minute. -/
  isInstant : IsInstant seconds nanos
deriving DecidableEq

namespace Instant

/-- The instant of seconds and nanoseconds, if they make one. -/
def of? (seconds : Int) (nanos : Nat) : Option Instant :=
  if h : IsInstant seconds nanos then some ⟨seconds, nanos, h⟩ else none

/-- Whether an instant is not after another. -/
def le (s t : Instant) : Bool :=
  s.seconds < t.seconds || (s.seconds == t.seconds && s.nanos ≤ t.nanos)

/-- Whether an instant lies in a leap second. -/
def isLeap (t : Instant) : Bool := nanosPerSecond ≤ t.nanos

/-- The date of an instant. -/
def date (t : Instant) : Date := Date.ofDayNumber (t.seconds / 86400)

/-- The second of the day of an instant, which does not count a leap second. -/
def secondOfDay (t : Instant) : Nat := (t.seconds % 86400).toNat

/-! ## Readings of a clock -/

/-- A date and a time of day as a clock shows them.  Second 60 is a leap second. -/
structure Reading where
  /-- The year. -/
  year : Int := 0
  /-- The month. -/
  month : Nat := 1
  /-- The day of the month. -/
  day : Nat := 1
  /-- The hour. -/
  hour : Nat := 0
  /-- The minute. -/
  minute : Nat := 0
  /-- The second. -/
  second : Nat := 0
  /-- The nanoseconds within the second. -/
  nanos : Nat := 0
deriving DecidableEq, Repr

/-- The date of a reading. -/
def Reading.date (r : Reading) : Date := ⟨r.year, r.month, r.day⟩

/-- Whether a clock can show a reading. -/
def Reading.IsValid (r : Reading) : Prop :=
  -262143 ≤ r.year ∧ r.year ≤ 262142 ∧ r.date.IsValid ∧ r.hour < 24 ∧ r.minute < 60 ∧
    r.second ≤ 60 ∧ r.nanos < nanosPerSecond

instance (r : Reading) : Decidable r.IsValid := inferInstanceAs (Decidable (_ ∧ _))

/-- The instant at which a clock that is `offset` seconds ahead shows a reading. -/
def ofReading? (r : Reading) (offset : Int) : Option Instant :=
  if r.IsValid then
    let second := min r.second 59
    let nanos := if r.second = 60 then r.nanos + nanosPerSecond else r.nanos
    of? (r.date.dayNumber * 86400 + (r.hour * 3600 + r.minute * 60 + second : Nat) - offset)
      nanos
  else none

/-- What a clock on the prime meridian shows at an instant. -/
def reading (t : Instant) : Reading :=
  let s := t.secondOfDay
  { year := t.date.year
    month := t.date.month
    day := t.date.day
    hour := s / 3600
    minute := s / 60 % 60
    second := if t.isLeap then s % 60 + 1 else s % 60
    nanos := t.nanos % nanosPerSecond }

/-! ## Differences -/

/-- The nanoseconds from one instant to another.  Days and times of day are subtracted apart.
A leap second that lies between the two times of day counts as a second of its own. -/
def nanosSince (t s : Instant) : Int :=
  let days := t.seconds / 86400 - s.seconds / 86400
  let seconds : Int := (t.secondOfDay : Int) - s.secondOfDay
  let leap : Int :=
    if s.secondOfDay < t.secondOfDay ∧ s.isLeap then 1
    else if t.secondOfDay < s.secondOfDay ∧ t.isLeap then -1
    else 0
  (days * 86400 + seconds + leap) * nanosPerSecond + ((t.nanos : Int) - s.nanos)

/-- The whole milliseconds from one instant to another, rounded toward zero. -/
def millisSince (t s : Instant) : Int := (t.nanosSince s).tdiv 1000000

end Instant

/-! ## Periods -/

/-- A stretch of time that contains its ends.  A missing end leaves its side open. -/
structure Period where
  /-- The first instant. -/
  start : Option Instant := none
  /-- The last instant. -/
  stop : Option Instant := none
deriving DecidableEq

namespace Period

/-- The period from one instant to another. -/
def ofEnds (start stop : Instant) : Period := ⟨some start, some stop⟩

/-- Whether an instant lies in a period. -/
def contains (p : Period) (t : Instant) : Bool :=
  p.start.all (·.le t) && p.stop.all (t.le ·)

end Period

end KnowledgeGraph

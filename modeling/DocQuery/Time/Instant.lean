import DocQuery.Time.Date

/-! # Instants

Points in universal time with nanoseconds. A leap second shares the second of the day with the
second before it and has a nanosecond count of at least 10 ^ 9.

* `Instant` — a date and a time of day.
* `Instant.compare` — order in time.
* `Instant.toMillis`, `Instant.ofMillis?` — milliseconds since the start of 1970.
-/

namespace DocQuery.Time

def nanosPerSecond : Nat := 1000000000

/-- Whether the parts are a time of day; a leap second is the last one of its minute. -/
def IsTime (second nano : Nat) : Prop :=
  second < 86400 ∧ (nano < 1000000000 ∨ (second % 60 = 59 ∧ nano < 2000000000))

instance (second nano : Nat) : Decidable (IsTime second nano) :=
  inferInstanceAs (Decidable (_ ∧ _))

/-- A point in universal time. -/
structure Instant where
  date : Date
  /-- The second of the day. -/
  second : Nat
  nano : Nat
  exists_time : IsTime second nano
  deriving DecidableEq

namespace Instant

/-- The instant of a day with the given time, if there is such a time. -/
def of? (date : Date) (second nano : Nat) : Option Instant :=
  if h : IsTime second nano then some ⟨date, second, nano, h⟩ else none

def midnight (date : Date) : Instant := ⟨date, 0, 0, by decide⟩

def epoch : Instant := midnight Date.epoch

/-- Order in time: by date, then by second, then by nanosecond. -/
def compare (a b : Instant) : Ordering :=
  (a.date.compare b.date).then
    ((Ord.compare a.second b.second).then (Ord.compare a.nano b.nano))

/-- The instant a number of minutes, less than a day, earlier or later. -/
def addMinutes (t : Instant) (minutes : Int) : Instant :=
  let total : Int := t.second + 60 * minutes
  let date := if total < 0 then t.date.previous
    else if 86400 ≤ total then t.date.next else t.date
  ⟨date, (total % 86400).toNat, t.nano, by
    have := t.exists_time
    unfold IsTime at *
    omega⟩

def isLeap (t : Instant) : Bool := nanosPerSecond ≤ t.nano

/-- Whole milliseconds since the start of 1970; a leap second counts on from its second. -/
def toMillis (t : Instant) : Int :=
  (t.date.dayNumber * 86400 + t.second) * 1000 + t.nano / 1000000

def yearInRange (year : Int) : Bool := -262143 ≤ year && year ≤ 262142

/-- The instant a number of milliseconds after the start of 1970, if its year is in range. -/
def ofMillis? (millis : Int) : Option Instant := do
  let seconds := millis / 1000
  let days := seconds / 86400
  if days < -200000000 || 200000000 < days then none
  else
    let date ← Date.ofDayNumber? days
    if yearInRange date.year then
      of? date (seconds % 86400).toNat ((millis % 1000).toNat * 1000000)
    else none

end Instant

end DocQuery.Time

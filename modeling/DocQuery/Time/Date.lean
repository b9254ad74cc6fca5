/-! # Calendar dates

Dates of the Gregorian calendar, extended to all years.

* `Date` — a year, month and day that exist.
* `Date.next`, `Date.previous` — neighbouring days.
* `Date.dayNumber`, `Date.ofDayNumber` — days counted from the first of January 1970.
-/

namespace DocQuery.Time

def isLeapYear (year : Int) : Bool :=
  year % 4 == 0 && (year % 100 != 0 || year % 400 == 0)

def daysInMonth (year : Int) (month : Nat) : Nat :=
  match month with
  | 2 => if isLeapYear year then 29 else 28
  | 4 | 6 | 9 | 11 => 30
  | _ => 31

theorem daysInMonth_pos (year : Int) (month : Nat) : 0 < daysInMonth year month := by
  unfold daysInMonth
  split
  · split <;> decide
  all_goals decide

def IsDate (year : Int) (month day : Nat) : Prop :=
  1 ≤ month ∧ month ≤ 12 ∧ 1 ≤ day ∧ day ≤ daysInMonth year month

instance (year : Int) (month day : Nat) : Decidable (IsDate year month day) :=
  inferInstanceAs (Decidable (_ ∧ _))

/-- A day of the calendar. -/
structure Date where
  year : Int
  month : Nat
  day : Nat
  exists_day : IsDate year month day
  deriving DecidableEq

namespace Date

def of? (year : Int) (month day : Nat) : Option Date :=
  if h : IsDate year month day then some ⟨year, month, day, h⟩ else none

def epoch : Date := ⟨1970, 1, 1, by decide⟩

def next (d : Date) : Date :=
  if h : d.day < daysInMonth d.year d.month then
    ⟨d.year, d.month, d.day + 1, by
      have := d.exists_day; unfold IsDate at *; omega⟩
  else if h : d.month < 12 then
    ⟨d.year, d.month + 1, 1, by
      have := d.exists_day
      have := daysInMonth_pos d.year (d.month + 1)
      unfold IsDate at *; omega⟩
  else ⟨d.year + 1, 1, 1, by
      have := daysInMonth_pos (d.year + 1) 1
      unfold IsDate; omega⟩

def previous (d : Date) : Date :=
  if h : 1 < d.day then
    ⟨d.year, d.month, d.day - 1, by
      have := d.exists_day; unfold IsDate at *; omega⟩
  else if h : 1 < d.month then
    ⟨d.year, d.month - 1, daysInMonth d.year (d.month - 1), by
      have := d.exists_day
      have := daysInMonth_pos d.year (d.month - 1)
      unfold IsDate at *; omega⟩
  else ⟨d.year - 1, 12, 31, by simp [IsDate, daysInMonth]⟩

def daysBeforeMonth (year : Int) (month : Nat) : Nat :=
  ((List.range month).drop 1).foldl (fun total m => total + daysInMonth year m) 0

/-- The days from the first of January of year 1 to the first of January of the given year. -/
def daysBeforeYear (year : Int) : Int :=
  let y := year - 1
  365 * y + y / 4 - y / 100 + y / 400

def dayNumber (d : Date) : Int :=
  daysBeforeYear d.year + daysBeforeMonth d.year d.month + (d.day - 1) - daysBeforeYear 1970

/-- Counts off whole months from the days since the start of a year. -/
def ofYearDay? (year : Int) (dayOfYear : Nat) : Option Date :=
  let month? := (List.range 13).find? fun m =>
    1 ≤ m && dayOfYear < daysBeforeMonth year m + daysInMonth year m
  month?.bind fun m => of? year m (dayOfYear - daysBeforeMonth year m + 1)

/--
The date with the given number. A year holds 365 or 366 days, so the year is the estimate by the
mean length of the calendar's cycle of 400 years, or one of its neighbours.
-/
def ofDayNumber? (n : Int) : Option Date :=
  let total := n + daysBeforeYear 1970
  let estimate := total * 400 / 146097 + 1
  let year? := [estimate + 1, estimate, estimate - 1].find? fun y => daysBeforeYear y ≤ total
  year?.bind fun y => ofYearDay? y (total - daysBeforeYear y).toNat

def compare (a b : Date) : Ordering :=
  (Ord.compare a.year b.year).then ((Ord.compare a.month b.month).then (Ord.compare a.day b.day))

end Date

end DocQuery.Time

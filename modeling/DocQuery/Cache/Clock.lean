import DocQuery.Number.Range

/-! # Time for caches

Moments are milliseconds on a clock that only moves forward.

* `Moment.after?` — a later moment, if the clock can show it.
* `millis` — seconds as milliseconds.
-/

namespace DocQuery

abbrev Moment := Nat

namespace Moment

/-- The clock shows moments before this one: it counts seconds below 2 ^ 63. -/
def bound : Moment := Number.twoTo 63 * 1000

def start : Moment := 1000

def after? (m : Moment) (time : Nat) : Option Moment :=
  if m + time < bound then some (m + time) else none

end Moment

def millis (seconds : Nat) : Nat := seconds * 1000

end DocQuery

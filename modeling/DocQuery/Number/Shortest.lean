import DocQuery.Number.Binary64

/-! # Shortest decimals

The fewest decimal digits that read back as a given double, and of those the nearest to it.

A decimal reads back as `m · 2 ^ q` when it lies in the interval of the numbers that round to it:
half a unit to each side, a quarter below a power of two, the ends included exactly when `m` is
even. If a grid of decimals meets the interval then one of the two grid neighbours of the number
itself does, so it is enough to look at those two for 1, 2, … 17 digits.

* `Tie` — the choice when both neighbours are equally near.
* `Shortest.digits` — the digits and the exponent.
-/

namespace DocQuery.Number

/-- Which of two equally near neighbours is taken. -/
inductive Tie
  | up
  | even
  deriving DecidableEq

/-- A positive decimal `0.d₁d₂d₃… · 10 ^ point`, its digits without zeros at the end. -/
structure Shortest where
  digits : List Char
  point : Int

namespace Shortest

/-- The numbers `num / den` that round to one double, as a closed or open interval. -/
structure Interval where
  low : Nat
  value : Nat
  high : Nat
  den : Nat
  closed : Bool

def Interval.of (m : Nat) (q : Int) : Interval :=
  let unit := if 0 ≤ q then twoTo q.toNat else 1
  let den := 4 * (if 0 ≤ q then 1 else twoTo (-q).toNat)
  let below := if m == twoTo 52 && -1074 < q then 1 else 2
  ⟨(4 * m - below) * unit, 4 * m * unit, (4 * m + 2) * unit, den, m % 2 == 0⟩

def Interval.holds (i : Interval) (n : Nat) (e : Int) : Bool :=
  let x := if 0 ≤ e then n * tenTo e.toNat * i.den else n * i.den
  let scale := if 0 ≤ e then 1 else tenTo (-e).toNat
  if i.closed then i.low * scale ≤ x && x ≤ i.high * scale
  else i.low * scale < x && x < i.high * scale

/-- The least `k` with `value < 10 ^ k`, searched upwards from a guess that is not above it. -/
def Interval.magnitude (i : Interval) : Nat → Int → Int
  | 0, k => k
  | fuel + 1, k =>
    let below := if 0 ≤ k then i.value < tenTo k.toNat * i.den
      else i.value * tenTo (-k).toNat < i.den
    if below then k else i.magnitude fuel (k + 1)

/-- The grid neighbour of the value to be written with grid exponent `e`, if there is one. -/
def Interval.candidate? (tie : Tie) (i : Interval) (e : Int) : Option Nat :=
  let num := if 0 ≤ e then i.value else i.value * tenTo (-e).toNat
  let den := if 0 ≤ e then i.den * tenTo e.toNat else i.den
  let floor := num / den
  let rest := num % den
  let lower := floor != 0 && i.holds floor e
  let upper := i.holds (floor + 1) e
  if lower && upper then
    if 2 * rest < den then some floor
    else if den < 2 * rest then some (floor + 1)
    else match tie with
      | .up => some (floor + 1)
      | .even => some (if floor % 2 == 0 then floor else floor + 1)
  else if lower then some floor
  else if upper then some (floor + 1)
  else none

/-- The digits of a natural without the zeros at its end. -/
def trimZeros (digits : List Char) : List Char :=
  (digits.reverse.dropWhile (· == '0')).reverse

def search (tie : Tie) (i : Interval) (magnitude : Int) : Nat → Nat → Shortest
  | 0, _ => ⟨['0'], 1⟩
  | fuel + 1, count =>
    let e := magnitude - count
    match i.candidate? tie e with
    | some n =>
      let digits := Nat.toDigits 10 n
      ⟨trimZeros digits, digits.length + e⟩
    | none => search tie i magnitude fuel (count + 1)

/-- The shortest decimal of `m · 2 ^ q`, for positive `m`. -/
def of (tie : Tie) (m : Nat) (q : Int) : Shortest :=
  let i := Interval.of m q
  -- 10 ^ 0.30102 < 2, so this guess is at most the magnitude and at most three below it
  let guess := (Int.ofNat m.log2 + q) * 30102 / 100000 - 1
  search tie i (i.magnitude 8 guess) 18 1

end Shortest

end DocQuery.Number

import DocQuery.Number.Range

/-! # Binary floating point as exact numbers

A finite double is `m · 2 ^ q` with natural `m`. This module goes from doubles to such pairs and
from ratios of naturals to the nearest double, all in exact arithmetic.

* `Binary64.decode` — sign, significand and exponent of a double.
* `Binary64.ofRatio` — the double nearest to a ratio, a tie going to the even significand.
* `Binary64.ofInt` — the double nearest to an integer.
* `Binary64.toInt` — an integer part, held between two bounds.
-/

namespace DocQuery.Number

/-- What a double stands for. -/
inductive Decoded
  | nan
  | infinite (negative : Bool)
  | finite (negative : Bool) (significand : Nat) (exponent : Int)

namespace Binary64

/-- The parts of a double; a finite one is `significand · 2 ^ exponent`. -/
def decode (x : Float) : Decoded :=
  let bits := x.toBits.toNat
  let negative := bits / twoTo 63 == 1
  let field : Nat := bits / twoTo 52 % twoTo 11
  let fraction : Nat := bits % twoTo 52
  if field == 2047 then
    if fraction == 0 then .infinite negative else .nan
  else if field == 0 then .finite negative fraction (-1074)
  else .finite negative (fraction + twoTo 52) (Int.ofNat field - 1075)

/-- The quotient rounded to the nearest natural, a tie going to the even one. -/
def roundDiv (num den : Nat) : Nat :=
  let q := num / den
  let r := num % den
  if den < 2 * r || (2 * r == den && q % 2 == 1) then q + 1 else q

/-- The ratio divided by a power of two, rounded to a natural. -/
def scaled (num den : Nat) (exponent : Int) : Nat :=
  if 0 ≤ exponent then roundDiv num (den * twoTo exponent.toNat)
  else roundDiv (num * twoTo (-exponent).toNat) den

/--
The bits of the nonnegative double nearest to a ratio. The exponent is the least one, above the
range of subnormals, that leaves a significand of at most 53 bits; a significand that rounds up to
54 bits carries into the exponent field by itself.
-/
def ratioBits (num den : Nat) : Nat :=
  if num == 0 || den == 0 then 0
  else
    let guess : Int := Int.ofNat num.log2 - Int.ofNat den.log2 - 53
    let atLeast (e : Int) : Bool :=
      if 0 ≤ e then den * twoTo (e.toNat + 53) ≤ num
      else if -53 ≤ e then den * twoTo (e + 53).toNat ≤ num
      else den ≤ num * twoTo (-(e + 53)).toNat
    let exponent := max (-1074) (if atLeast guess then guess + 1 else guess)
    let significand := scaled num den exponent
    let bits :=
      if significand < twoTo 52 then significand
      else (significand - twoTo 52) + (exponent + 1075).toNat * twoTo 52
    min bits (2047 * twoTo 52)

/-- The double nearest to a ratio, infinite when it is beyond the range. -/
def ofRatio (negative : Bool) (num den : Nat) : Float :=
  Float.ofBits (UInt64.ofNat (ratioBits num den + if negative then twoTo 63 else 0))

def infinity (negative : Bool) : Float :=
  Float.ofBits (UInt64.ofNat (2047 * twoTo 52 + if negative then twoTo 63 else 0))

def ofInt (n : Int) : Float := ofRatio (n < 0) n.natAbs 1

def ofDecimal (negative : Bool) (digits : Nat) (exponent : Int) : Float :=
  let magnitude : Int := (Nat.toDigits 10 digits).length + exponent
  if digits == 0 || magnitude < -400 then ofRatio negative 0 1
  else if 400 < magnitude then infinity negative
  else if 0 ≤ exponent then ofRatio negative (digits * tenTo exponent.toNat) 1
  else ofRatio negative digits (tenTo (-exponent).toNat)

/-- The integer part, held between two bounds; zero for what is not a number. -/
def toInt (low high : Int) (x : Float) : Int :=
  match decode x with
  | .nan => 0
  | .infinite negative => if negative then low else high
  | .finite negative m q =>
    let magnitude := if 0 ≤ q then m * twoTo q.toNat else m / twoTo (-q).toNat
    let n : Int := if negative then -magnitude else magnitude
    max low (min high n)

/-- Whether a double is neither infinite nor not a number. -/
def isFinite (x : Float) : Bool :=
  match decode x with
  | .finite .. => true
  | _ => false

end Binary64

end DocQuery.Number

import DocQuery.Number.Shortest
import DocQuery.Text.Scan

/-! # Text of numbers

* `FloatStyle` — how a notation lays out the shortest digits; `plainStyle` never uses an exponent.
* `floatText` — a double in a style.
* `parseFloat?`, `parseInt?`, `parseNat?` — numbers from text.
-/

namespace DocQuery.Number

/-- The decisions of a notation for doubles. -/
structure FloatStyle where
  /-- Values from `10 ^ (low - 1)` up to below `10 ^ high` are written without an exponent; all
  values when absent. -/
  positional : Option (Int × Int)
  /-- What follows the digits of a value without fraction. -/
  wholeSuffix : String
  /-- The choice between two equally near decimals. -/
  tie : Tie
  nan : String
  infinite : String

/-- Plain digits, whole values without a point, and no exponent ever. -/
def plainStyle : FloatStyle := ⟨none, "", .up, "NaN", "inf"⟩

def FloatStyle.layout (style : FloatStyle) (d : Shortest) : String :=
  let zeros (n : Int) : List Char := List.replicate n.toNat '0'
  let count : Int := d.digits.length
  let positional := match style.positional with
    | none => true
    | some (low, high) => low ≤ d.point && d.point ≤ high
  if positional then
    if d.point ≤ 0 then String.ofList ('0' :: '.' :: zeros (-d.point) ++ d.digits)
    else if count ≤ d.point then
      String.ofList (d.digits ++ zeros (d.point - count)) ++ style.wholeSuffix
    else
      String.ofList (d.digits.take d.point.toNat ++ '.' :: d.digits.drop d.point.toNat)
  else
    let exponent := d.point - 1
    let mark := if exponent < 0 then "e-" else "e+"
    let significand := match d.digits with
      | [] => []
      | [c] => [c]
      | c :: rest => c :: '.' :: rest
    String.ofList significand ++ mark ++ toString exponent.natAbs

def floatText (style : FloatStyle) (x : Float) : String :=
  let sign (negative : Bool) := if negative then "-" else ""
  match Binary64.decode x with
  | .nan => style.nan
  | .infinite negative => sign negative ++ style.infinite
  | .finite negative m q =>
    if m == 0 then sign negative ++ "0" ++ style.wholeSuffix
    else sign negative ++ style.layout (Shortest.of style.tie m q)

/-! ## Reading -/

/-- The value of decimal digits, provided that there is one and all are ASCII digits. -/
def digitsValue? (s : List Char) : Option Nat :=
  if s.isEmpty || !s.all Char.isDigit then none else some (Nat.ofDigitChars 10 s 0)

/-- A sign in front of a number: whether it is negative, and the rest. -/
def takeSign : List Char → Bool × List Char
  | '-' :: rest => (true, rest)
  | '+' :: rest => (false, rest)
  | s => (false, s)

/-- A natural below a bound, with an optional plus sign. -/
def parseNat? (bound : Nat) (s : List Char) : Option Nat := do
  let n ← digitsValue? (match s with | '+' :: rest => rest | s => s)
  if n < bound then some n else none

def parseInt64? (s : List Char) : Option Int64 := do
  let (negative, digits) := takeSign s
  let n ← digitsValue? digits
  let i : Int := if negative then -n else n
  if fitsInt i then some (Int64.ofInt i) else none

/-- The exponent part of a decimal, zero when there is none. -/
def exponent? : List Char → Option Int
  | [] => some 0
  | c :: rest =>
    if c == 'e' || c == 'E' then do
      let (negative, digits) := takeSign rest
      let n ← digitsValue? digits
      some (if negative then -n else n)
    else none

/-- An unsigned decimal with optional fraction and exponent. -/
def decimal? (s : List Char) : Option (Nat × Int) := do
  let whole := s.takeWhile Char.isDigit
  let rest := s.dropWhile Char.isDigit
  let (fraction, rest) := match rest with
    | '.' :: more => (more.takeWhile Char.isDigit, more.dropWhile Char.isDigit)
    | _ => ([], rest)
  let n ← digitsValue? (whole ++ fraction)
  let e ← exponent? rest
  some (n, e - fraction.length)

/-- The nearest double to a decimal; the words for infinity and not-a-number are read too. -/
def parseFloat? (s : List Char) : Option Float :=
  let (negative, body) := takeSign s
  let lower := String.ofList (body.map Char.toLower)
  if lower == "inf" || lower == "infinity" then some (Binary64.infinity negative)
  else if lower == "nan" then
    some (Float.ofBits (if negative then 0xfff8000000000000 else 0x7ff8000000000000))
  else (decimal? body).map fun (n, e) => Binary64.ofDecimal negative n e

end DocQuery.Number

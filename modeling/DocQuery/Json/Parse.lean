import DocQuery.Json.Basic

/-! # Reading JSON

* `Json.number?` — a number, with the rounding of `scaled?`.
* `Json.stringBody?` — a string after its opening quote.
* `Json.parse?` — a whole text; nesting is limited.

Every recursive call consumes a character of the text, so the length of the text bounds the
recursion.
-/

namespace DocQuery.Json

open DocQuery.Number DocQuery.Text

def isSpace (c : Char) : Bool := c == ' ' || c == '\n' || c == '\t' || c == '\r'

def skipSpace (s : List Char) : List Char := s.dropWhile isSpace

/-! ## Numbers -/

def significandBound : Nat := wordBound

/-- Appends digits to a significand while it stays in bounds; the digits that are left over. -/
def accumulate (significand : Nat) : List Char → Nat × List Char
  | [] => (significand, [])
  | c :: rest =>
    let next := significand * 10 + (c.toNat - 48)
    if next < significandBound then accumulate next rest else (significand, c :: rest)

/--
Scales a significand by a power of ten with one rounding for each factor. A power beyond the range
of doubles is taken off first; a value beyond the range is no number.
-/
def scaled? : Nat → Float → Int → Option Float
  | 0, x, _ => some x
  | fuel + 1, x, exponent =>
    if exponent.natAbs ≤ 308 then
      let power := Binary64.ofRatio false (tenTo exponent.natAbs) 1
      if 0 ≤ exponent then
        let y := x * power
        if Binary64.isFinite y then some y else none
      else some (x / power)
    else if x == 0.0 then some x
    else if 0 ≤ exponent then none
    else scaled? fuel (x / Binary64.ofRatio false (tenTo 308) 1) (exponent + 308)

def floatOf? (negative : Bool) (significand : Nat) (exponent : Int) : Option Json :=
  (scaled? 8 (Binary64.ofInt significand) exponent).map fun x =>
    .float (if negative then -x else x)

def withExponent? (negative : Bool) (significand : Nat) (start : Int) (s : List Char) :
    Option (Json × List Char) := do
  let (down, s) := takeSign s
  let (digits, rest) ← run? Char.isDigit s
  let n := Nat.ofDigitChars 10 digits 0
  if n < twoTo 31 then
    let x ← floatOf? negative significand (start + if down then -Int.ofNat n else Int.ofNat n)
    some (x, rest)
  else if significand == 0 || down then
    some (.float (if negative then -0.0 else 0.0), rest)
  else none

def afterDigits? (negative : Bool) (significand : Nat) (exponent : Int) (s : List Char) :
    Option (Json × List Char) :=
  match s with
  | c :: rest =>
    if c == 'e' || c == 'E' then withExponent? negative significand exponent rest
    else (floatOf? negative significand exponent).map (·, s)
  | [] => (floatOf? negative significand exponent).map (·, s)

/-- An integer; one that 64 bits cannot hold, and minus zero, becomes a double. -/
def integerOf (negative : Bool) (n : Nat) : Json :=
  if !negative then .integer n
  else if n == 0 || twoTo 63 < n then .float (-(Binary64.ofInt n))
  else .integer (-n)

/--
A number. Integers that 64 bits hold are exact. Otherwise the digits that fit the significand are
used, the remaining digits before the point only count, and later ones are dropped.
-/
def number? (s : List Char) : Option (Json × List Char) := do
  let (negative, s) := match s with
    | '-' :: rest => (true, rest)
    | _ => (false, s)
  let (digits, rest) ← run? Char.isDigit s
  if digits.length != 1 && digits.head? == some '0' then none
  else
    let (significand, dropped) := accumulate 0 digits
    match rest with
    | '.' :: more => do
      let (fraction, rest) ← run? Char.isDigit more
      let (significand, cut) := accumulate significand fraction
      let places : Int := Int.ofNat (fraction.length - cut.length)
      afterDigits? negative significand (dropped.length - places) rest
    | _ =>
      let exponential := rest.head?.any fun c => c == 'e' || c == 'E'
      if dropped.isEmpty && !exponential then some (integerOf negative significand, rest)
      else afterDigits? negative significand dropped.length rest

/-! ## Strings -/

/-- A character of a string, or a code unit that an escape gives by number. -/
inductive Piece
  | char (c : Char)
  | unit (n : Nat)

/-- The pieces of a string up to its closing quote, and the text after it. -/
def pieces? : List Char → Option (List Piece × List Char)
  | [] => none
  | '"' :: rest => some ([], rest)
  | '\\' :: 'u' :: a :: b :: c :: d :: rest => do
    let n := (← hexValue? a) * 4096 + (← hexValue? b) * 256 + (← hexValue? c) * 16
      + (← hexValue? d)
    let (pieces, after) ← pieces? rest
    some (.unit n :: pieces, after)
  | '\\' :: c :: rest => do
    let plain ← match c with
      | '"' => some '"'
      | '\\' => some '\\'
      | '/' => some '/'
      | 'b' => some '\x08'
      | 'f' => some '\x0c'
      | 'n' => some '\n'
      | 'r' => some '\r'
      | 't' => some '\t'
      | _ => none
    let (pieces, after) ← pieces? rest
    some (.char plain :: pieces, after)
  | c :: rest =>
    if c.toNat < 0x20 || c == '\\' then none
    else do
      let (pieces, after) ← pieces? rest
      some (.char c :: pieces, after)

/-- Joins the two halves of a surrogate pair; a half alone is refused. -/
def joinPieces? : List Piece → Option (List Char)
  | [] => some []
  | .char c :: rest => (joinPieces? rest).map (c :: ·)
  | .unit high :: .unit low :: rest =>
    if 0xd800 ≤ high && high < 0xdc00 then
      if 0xdc00 ≤ low && low < 0xe000 then
        (joinPieces? rest).map
          (Char.ofNat (0x10000 + (high - 0xd800) * 0x400 + (low - 0xdc00)) :: ·)
      else none
    else if 0xdc00 ≤ high && high < 0xe000 then none
    else (joinPieces? (.unit low :: rest)).map (Char.ofNat high :: ·)
  | .unit n :: rest =>
    if 0xd800 ≤ n && n < 0xe000 then none
    else (joinPieces? rest).map (Char.ofNat n :: ·)

/-- A string after its opening quote, and the text after its closing one. -/
def stringBody? (s : List Char) : Option (String × List Char) := do
  let (pieces, rest) ← pieces? s
  some (String.ofList (← joinPieces? pieces), rest)

def memberName? (s : List Char) : Option (String × List Char) := do
  let (name, rest) ← stringBody? (← char? '"' (skipSpace s))
  some (name, ← char? ':' (skipSpace rest))

/-! ## Values -/

def literal? (word : List Char) (value : Json) (s : List Char) : Option (Json × List Char) :=
  if word.isPrefixOf s then some (value, s.drop word.length) else none

mutual

/-- A value; `depth` bounds how many arrays and objects may still open. -/
def value? : Nat → Nat → List Char → Option (Json × List Char)
  | 0, _, _ => none
  | fuel + 1, depth, s =>
    match skipSpace s with
    | [] => none
    | c :: rest =>
      if c == '"' then (stringBody? rest).map fun (t, after) => (.string t, after)
      else if c == '[' then
        if depth == 0 then none
        else match skipSpace rest with
          | ']' :: after => some (.array [], after)
          | more => (items? fuel (depth - 1) more).map fun (l, after) => (.array l, after)
      else if c == '\x7b' then
        if depth == 0 then none
        else match skipSpace rest with
          | '\x7d' :: after => some (.object [], after)
          | more => (members? fuel (depth - 1) more).map fun (l, after) => (ofMembers l, after)
      else if c == 'n' then literal? ['n', 'u', 'l', 'l'] .null (c :: rest)
      else if c == 't' then literal? ['t', 'r', 'u', 'e'] (.bool true) (c :: rest)
      else if c == 'f' then literal? ['f', 'a', 'l', 's', 'e'] (.bool false) (c :: rest)
      else number? (c :: rest)

/-- The items of an array, of which there is at least one, up to the closing bracket. -/
def items? : Nat → Nat → List Char → Option (List Json × List Char)
  | 0, _, _ => none
  | fuel + 1, depth, s => do
    let (item, rest) ← value? fuel depth s
    match skipSpace rest with
    | ',' :: more =>
      let (items, after) ← items? fuel depth more
      some (item :: items, after)
    | ']' :: after => some ([item], after)
    | _ => none

/-- The members of an object, of which there is at least one, up to the closing brace. -/
def members? : Nat → Nat → List Char → Option (List (String × Json) × List Char)
  | 0, _, _ => none
  | fuel + 1, depth, s => do
    let (name, rest) ← memberName? s
    let (value, rest) ← value? fuel depth rest
    match skipSpace rest with
    | ',' :: more =>
      let (members, after) ← members? fuel depth more
      some ((name, value) :: members, after)
    | '\x7d' :: after => some ([(name, value)], after)
    | _ => none

end

/-- The number of arrays and objects that may be open at once. -/
def maxDepth : Nat := 127

def parse? (s : String) : Option Json := do
  let chars := s.toList
  let (value, rest) ← value? (2 * chars.length + 2) maxDepth chars
  if (skipSpace rest).isEmpty then some value else none

end DocQuery.Json

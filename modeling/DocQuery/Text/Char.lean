import DocQuery.Unicode.Alphabetic

/-! # Classes of characters

The character classes that statements are read with.

* `isBlank` — white space.
* `isDigit`, `isWordChar` — digits, and the characters of names.
* `isAlphabetic`, `isAlphanumeric` — slightly different classes, which bound connectors.
* `spells` — a letter of a keyword, in any letter case.

ASCII is decided first, by comparison; the tables are consulted beyond it.
-/

namespace DocQuery.Text

open DocQuery.Unicode

def isBlank (c : Char) : Bool :=
  let n := c.toNat
  n == 0x20 || (0x09 ≤ n && n ≤ 0x0d) || n == 0x85 || n == 0xa0 || n == 0x1680 ||
    (0x2000 ≤ n && n ≤ 0x200a) || n == 0x2028 || n == 0x2029 || n == 0x202f || n == 0x205f ||
    n == 0x3000

def isDigit (c : Char) : Bool :=
  if c.toNat < 0x80 then c.isDigit else decimalNumbers.contains c.toNat

/-- A character of a name: alphabetic, a mark, a digit, or connecting punctuation. -/
def isWordChar (c : Char) : Bool :=
  if c.toNat < 0x80 then c.isAlphanum || c == '_' else wordCharacters.contains c.toNat

/-- An alphabetic character of version 17 of the standard. -/
def isAlphabetic (c : Char) : Bool :=
  if c.toNat < 0x80 then c.isAlpha
  else alphabetic.contains c.toNat || laterAlphabetic.contains c.toNat

/--
Alphabetic or numeric in version 17 of the standard: unlike `isWordChar`, without most marks and
with fractions.
-/
def isAlphanumeric (c : Char) : Bool :=
  if c.toNat < 0x80 then c.isAlphanum
  else isAlphabetic c || (Category.union Category.numbers).contains c.toNat ||
    laterNumbers.contains c.toNat

/--
Whether `c` spells the upper-case ASCII letter `letter` when case is disregarded. The long s and
the Kelvin sign are case variants of S and K.
-/
def spells (letter c : Char) : Bool :=
  c.toUpper == letter || (letter == 'S' && c == 'ſ') || (letter == 'K' && c == '\u212a')

def digitValue? (c : Char) : Option Nat :=
  if '0' ≤ c ∧ c ≤ '9' then some (c.toNat - 48) else none

def hexValue? (c : Char) : Option Nat :=
  if '0' ≤ c ∧ c ≤ '9' then some (c.toNat - 48)
  else if 'a' ≤ c ∧ c ≤ 'f' then some (c.toNat - 87)
  else if 'A' ≤ c ∧ c ≤ 'F' then some (c.toNat - 55)
  else none

/-- The lower-case hexadecimal digit of a value below 16. -/
def hexDigit (n : Nat) : Char :=
  if n < 10 then Char.ofNat (48 + n) else Char.ofNat (87 + n)

def eqIgnoreCase (a b : String) : Bool :=
  a.toList.map Char.toLower == b.toList.map Char.toLower

def upperAscii (s : String) : String := s.map Char.toUpper

end DocQuery.Text

import DocQuery.Number.Range
import DocQuery.Text.Char

/-! # Object identifiers

Identifiers of twelve bytes, held as their twenty-four hexadecimal digits.

* `ObjectId.parse?`, `ObjectId.hex` — reading and writing.
* `ObjectId.compare` — order of the bytes.
* `ObjectId.timestamp`, `ObjectId.bytes` — the number in the first four bytes, all bytes.
-/

namespace DocQuery

open DocQuery.Text

/-- An identifier of twelve bytes. -/
structure ObjectId where
  digits : List (Fin 16)
  length_digits : digits.length = 24
  deriving DecidableEq

def hexNibble? (c : Char) : Option (Fin 16) :=
  (hexValue? c).bind fun n => if h : n < 16 then some ⟨n, h⟩ else none

namespace ObjectId

/-- The identifier of the given digits, if their number is right. -/
def ofDigits? (digits : List (Fin 16)) : Option ObjectId :=
  if h : digits.length = 24 then some ⟨digits, h⟩ else none

/-- The identifier of all zeros, which no document is given. -/
def nil : ObjectId := ⟨List.replicate 24 0, by decide⟩

/-- Reads twenty-four hexadecimal digits of either case. -/
def parse? (s : String) : Option ObjectId :=
  (s.toList.mapM hexNibble?).bind ofDigits?

def hexChars (id : ObjectId) : List Char := id.digits.map fun d => hexDigit d.val

def hex (id : ObjectId) : String := String.ofList id.hexChars

def value (digits : List (Fin 16)) : Nat := digits.foldl (fun n d => 16 * n + d.val) 0

/-- The number in the first four bytes: seconds since 1970. -/
def timestamp (id : ObjectId) : Nat := value (id.digits.take 8)

def pairs : List (Fin 16) → List Nat
  | high :: low :: rest => (16 * high.val + low.val) :: pairs rest
  | _ => []

def bytes (id : ObjectId) : List Nat := pairs id.digits

def compare (a b : ObjectId) : Ordering := Ord.compare (value a.digits) (value b.digits)

/-- The identifier whose bytes spell a number, reduced to twelve bytes. -/
def ofNat (n : Nat) : ObjectId :=
  ⟨(List.range 24).map fun i => Fin.ofNat 16 (n / Number.twoTo (4 * (23 - i))), by simp⟩

end ObjectId

end DocQuery

/-! # Powers and ranges

* `twoTo`, `tenTo` — powers of the bases that number formats use.
* `fitsInt` — the integers of 64 bits, from `minInt` to `maxInt`.
* `wordBound` — naturals of 64 bits lie below it.
-/

namespace DocQuery.Number

def twoTo (n : Nat) : Nat := Nat.pow 2 n

def tenTo (n : Nat) : Nat := Nat.pow 10 n

def minInt : Int := -9223372036854775808

def maxInt : Int := 9223372036854775807

def fitsInt (n : Int) : Bool := minInt ≤ n && n ≤ maxInt

def wordBound : Nat := 18446744073709551616

end DocQuery.Number

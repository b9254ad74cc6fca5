/-! # Ranges of code points

Sets of characters, as closed ranges of code points. The tables of this library follow version 16
of the Unicode standard.

* `Ranges` — the list of ranges.
* `Ranges.contains` — membership of one code point.
* `Ranges.normalize`, `Ranges.complement`, `Ranges.inter`, `Ranges.diff`, `Ranges.symmDiff` — the
  algebra of sets; union is `++`.
* `SteppedRun` — code points at equal distances.
-/

namespace DocQuery.Unicode

abbrev Ranges := List (Nat × Nat)

namespace Ranges

def contains (ranges : Ranges) (code : Nat) : Bool :=
  ranges.any fun range => range.1 ≤ code && code ≤ range.2

@[simp] theorem contains_nil (code : Nat) : contains [] code = false := rfl

@[simp] theorem contains_cons (range : Nat × Nat) (ranges : Ranges) (code : Nat) :
    contains (range :: ranges) code =
      ((range.1 ≤ code && code ≤ range.2) || contains ranges code) := rfl

theorem contains_append (a b : Ranges) (code : Nat) :
    contains (a ++ b) code = (contains a code || contains b code) :=
  List.any_append

def maxCode : Nat := 0x10ffff

def full : Ranges := [(0, maxCode)]

def single (code : Nat) : Ranges := [(code, code)]

/-- Grows a range by the ranges after it that it meets or touches, and goes on with the next one.
The ranges are sorted by their first ends. -/
def mergeFrom (current : Nat × Nat) : Ranges → Ranges
  | [] => [current]
  | next :: rest =>
    if next.1 ≤ current.2 + 1 then mergeFrom (current.1, max current.2 next.2) rest
    else current :: mergeFrom next rest

/-- Merges the ranges of a list that is sorted by the first ends. -/
def merge : Ranges → Ranges
  | [] => []
  | range :: rest => mergeFrom range rest

def normalize (set : Ranges) : Ranges :=
  merge (set.mergeSort fun a b => a.1 ≤ b.1)

theorem contains_mergeFrom (current : Nat × Nat) (rest : Ranges)
    (sorted : (current :: rest).Pairwise fun a b => a.1 ≤ b.1) (code : Nat) :
    contains (mergeFrom current rest) code = contains (current :: rest) code := by
  induction rest generalizing current with
  | nil => rfl
  | cons next rest ih =>
    obtain ⟨first, tail⟩ := List.pairwise_cons.mp sorted
    have near : current.1 ≤ next.1 := first next List.mem_cons_self
    rw [mergeFrom]
    split
    · rw [ih]
      · rw [contains_cons, contains_cons, contains_cons, ← Bool.or_assoc]
        congr 1
        rw [Bool.eq_iff_iff]
        simp only [Bool.or_eq_true, Bool.and_eq_true, decide_eq_true_eq]
        omega
      · exact List.pairwise_cons.mpr
          ⟨fun range member => first range (List.mem_cons_of_mem _ member),
            (List.pairwise_cons.mp tail).2⟩
    · rw [contains_cons, ih next tail, contains_cons current]

/-- A set and its normal form have the same characters. -/
theorem contains_normalize (set : Ranges) (code : Nat) :
    contains (normalize set) code = contains set code := by
  have sorted : (set.mergeSort fun a b => a.1 ≤ b.1).Pairwise fun a b =>
      decide (a.1 ≤ b.1) = true := by
    apply List.pairwise_mergeSort
    · intro a b c
      simpa using Nat.le_trans
    · intro a b
      simpa using Nat.le_total a.1 b.1
  have same : contains (set.mergeSort fun a b => a.1 ≤ b.1) code = contains set code :=
    (List.mergeSort_perm set _).any_eq
  rw [← same, normalize]
  cases h : set.mergeSort fun a b => a.1 ≤ b.1 with
  | nil => rfl
  | cons range rest =>
    apply contains_mergeFrom
    simpa [h] using sorted

/-- The gaps between normal ranges, from a first code point on. -/
def gaps (first : Nat) : Ranges → Ranges
  | [] => if first ≤ maxCode then [(first, maxCode)] else []
  | (a, b) :: rest => if first < a then (first, a - 1) :: gaps (b + 1) rest else gaps (b + 1) rest

def complement (set : Ranges) : Ranges := gaps 0 (normalize set)

def inter (a b : Ranges) : Ranges := complement (complement a ++ complement b)

def diff (a b : Ranges) : Ranges := inter a (complement b)

def symmDiff (a b : Ranges) : Ranges := diff a b ++ diff b a

end Ranges

/-- The code points from one to another in equal steps. -/
structure SteppedRun where
  first : Nat
  last : Nat
  step : Nat

namespace SteppedRun

def codes (run : SteppedRun) : List Nat :=
  (List.range ((run.last - run.first) / run.step + 1)).map fun i => run.first + i * run.step

def ranges (runs : List SteppedRun) : Ranges :=
  runs.flatMap fun run =>
    if run.step == 1 then [(run.first, run.last)] else run.codes.map fun c => (c, c)

end SteppedRun

end DocQuery.Unicode

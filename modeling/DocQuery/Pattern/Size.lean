import DocQuery.Pattern.Basic

/-! # Size of patterns

A pattern is turned into states with transitions on the bytes of UTF-8, all repetitions written
out. What these take in memory is estimated, and a pattern that takes too much is refused.

* `ByteSpans` — a run of characters, byte by byte.
* `CharSet.spans` — the runs of a set.
* `CharSet.memory`, `Pattern.memory` — the estimate, in bytes.
* `Pattern.isSmall` — the test.
-/

namespace DocQuery.Pattern

/-! ## Runs of characters -/

/-- The closed range of each byte in turn. All characters with such bytes form a run. -/
abbrev ByteSpans := List (Nat × Nat)

/--
The numbers from one to another, written to the base 64 with `count` digits after the first one,
as runs where every digit has a range of its own. The first digit is increased by `lead`.
-/
def digitSpans (lead : Nat) : Nat → Nat → Nat → List ByteSpans
  | 0, low, high => [[(lead + low, lead + high)]]
  | count + 1, low, high =>
    let unit := Number.twoTo (6 * (count + 1))
    let first := low / unit
    let last := high / unit
    let tails (digit low high : Nat) : List ByteSpans :=
      (digitSpans 0 count low high).map fun tail => (lead + digit, lead + digit) :: tail
    if first == last then tails first (low % unit) (high % unit)
    else
      let partFirst := low % unit != 0
      let partLast := high % unit != unit - 1
      let wholeFirst := if partFirst then first + 1 else first
      let wholeLast := if partLast then last else last + 1
      let whole : List ByteSpans :=
        if wholeFirst < wholeLast then
          [(lead + wholeFirst, lead + wholeLast - 1) :: List.replicate (count + 1) (0, 63)]
        else []
      (if partFirst then tails first (low % unit) (unit - 1) else []) ++ whole ++
        (if partLast then tails last 0 (high % unit) else [])

/-- The code points that are written with one, two, three and four bytes, without surrogates: the
first and the last one, the first byte's mark, and the number of further bytes. -/
def lengthClasses : List (Nat × Nat × Nat × Nat) :=
  [(0, 0x7f, 0, 0), (0x80, 0x7ff, 0xc0, 1), (0x800, 0xd7ff, 0xe0, 2), (0xe000, 0xffff, 0xe0, 2),
    (0x10000, 0x10ffff, 0xf0, 3)]

def CharSet.spans (set : CharSet) : List ByteSpans :=
  set.flatMap fun (low, high) =>
    lengthClasses.flatMap fun (first, last, mark, count) =>
      if low ≤ last && first ≤ high then digitSpans mark count (max low first) (min high last)
      else []

/-- The number of bytes that two runs have in common at their start. -/
def sharedLength : ByteSpans → ByteSpans → Nat
  | a :: as, b :: bs => if a == b then sharedLength as bs + 1 else 0
  | _, _ => 0

/-- The number of states for runs in order, where each shares its start with the one before it. -/
def stateCount (before : ByteSpans) : List ByteSpans → Nat
  | [] => 0
  | run :: rest => (run.length - sharedLength before run) + stateCount run rest

/-! ## The estimate -/

def stateMemory : Nat := 32

def CharSet.isSingle : CharSet → Bool
  | [(low, high)] => low == high
  | _ => false

/-- The memory for the states of a set. In ASCII one state has a transition for every range. -/
def CharSet.memory (set : CharSet) : Nat :=
  let set : CharSet := set.normalize
  let spans := set.spans
  if set.isSingle then stateCount [] spans * stateMemory
  else if set.isAscii then 2 * stateMemory + 8 * set.length
  else 2 * stateMemory + 4 * spans.length + stateCount [] spans * stateMemory

def isEmptyOnly : Pattern → Bool
  | .empty => true
  | .char _ => false
  | .place _ => true
  | .group body => isEmptyOnly body
  | .seq first second => isEmptyOnly first && isEmptyOnly second
  | .either left right => isEmptyOnly left && isEmptyOnly right
  | .repeated body _ most => isEmptyOnly body || most == some 0

/-- The states that a choice adds to its branches. A further branch adds a transition only. -/
def choiceMemory : Pattern → Nat
  | .either _ _ => 4
  | _ => 2 * stateMemory + 8

/-- The states that a repetition takes, given the memory for its body. -/
def repeatedMemory (body least : Nat) : Option Nat → Nat
  | none => max 1 least * body + (stateMemory + 8)
  | some most =>
    if most ≤ least then least * body
    else least * body + (most - least) * (body + (stateMemory + 8)) + stateMemory

/-- The memory for the states of a pattern. What is always empty is repeated once at most. -/
def memory : Pattern → Nat
  | .empty => 0
  | .char set => set.memory
  | .place _ => stateMemory
  | .group body => memory body + 2 * stateMemory
  | .seq first second => memory first + memory second
  | .either left right => memory left + memory right + choiceMemory right
  | .repeated body least most =>
    if isEmptyOnly body then repeatedMemory (memory body) (min 1 least) (some (min 1 (most.getD 1)))
    else repeatedMemory (memory body) least most

def baseMemory : Nat := 168

def maxMemory : Nat := 10 * 1024 * 1024

/-- Whether a pattern takes no more memory than is allowed. -/
def isSmall (pattern : Pattern) : Bool := pattern.memory + baseMemory ≤ maxMemory

end DocQuery.Pattern

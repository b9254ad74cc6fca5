import DocQuery.Unicode.Alphabetic
import DocQuery.Unicode.CaseFold
import DocQuery.Unicode.Feature

/-! # Sets of characters

The sets that patterns are made of: ranges of code points, with letter case and the named sets.

* `CharSet.isAscii`, `CharSet.asciiPart` — what is in ASCII.
* `CharSet.foldCase` — closure under letter case.
* `CharSet.digit`, `CharSet.space`, `CharSet.word`, `CharSet.posix?` — the named sets.
-/

namespace DocQuery.Pattern

open DocQuery.Unicode

abbrev CharSet := Ranges

namespace CharSet

def isAscii (set : CharSet) : Bool := set.all fun range => range.2 < 0x80

def asciiPart (set : CharSet) : CharSet := set.inter [(0, 0x7f)]

/-! ## Letter case -/

/-- Every character that folding moves, with its folded form. -/
def foldPairs : List (Nat × Nat) :=
  foldRuns.flatMap fun run =>
    (SteppedRun.codes ⟨run.first, run.last, run.step⟩).map fun c => (c, run.image c)

def foldCase (set : CharSet) : CharSet :=
  let set := set.normalize
  let images := foldPairs.filterMap fun (c, f) => if set.contains c then some (f, f) else none
  let folded := (set ++ images).normalize
  let sources := foldPairs.filterMap fun (c, f) => if folded.contains f then some (c, c) else none
  folded ++ sources

def variants (code : Nat) : CharSet := (CaseFold.variants code).map fun c => (c, c)

/-! ## Named sets -/

def digit (unicode : Bool) : CharSet :=
  if unicode then decimalNumbers else [(0x30, 0x39)]

def space (unicode : Bool) : CharSet :=
  if unicode then whiteSpace else [(0x09, 0x0d), (0x20, 0x20)]

def asciiWord : CharSet := [(0x30, 0x39), (0x41, 0x5a), (0x5f, 0x5f), (0x61, 0x7a)]

def unicodeWord : CharSet := wordCharacters.normalize

def word (unicode : Bool) : CharSet := if unicode then unicodeWord else asciiWord

def posix? (name : String) : Option CharSet :=
  match name with
  | "alnum" => some [(0x30, 0x39), (0x41, 0x5a), (0x61, 0x7a)]
  | "alpha" => some [(0x41, 0x5a), (0x61, 0x7a)]
  | "ascii" => some [(0, 0x7f)]
  | "blank" => some [(0x09, 0x09), (0x20, 0x20)]
  | "cntrl" => some [(0, 0x1f), (0x7f, 0x7f)]
  | "digit" => some [(0x30, 0x39)]
  | "graph" => some [(0x21, 0x7e)]
  | "lower" => some [(0x61, 0x7a)]
  | "print" => some [(0x20, 0x7e)]
  | "punct" => some [(0x21, 0x2f), (0x3a, 0x40), (0x5b, 0x60), (0x7b, 0x7e)]
  | "space" => some [(0x09, 0x0d), (0x20, 0x20)]
  | "upper" => some [(0x41, 0x5a)]
  | "word" => some asciiWord
  | "xdigit" => some [(0x30, 0x39), (0x41, 0x46), (0x61, 0x66)]
  | _ => none

end CharSet

end DocQuery.Pattern

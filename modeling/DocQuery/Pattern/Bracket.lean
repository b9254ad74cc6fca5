import DocQuery.Pattern.Escape
import DocQuery.Pattern.Nested

/-! # Bracketed classes

Sets of characters in brackets: characters, ranges, class letters, named sets, further brackets,
and operators between groups of these.

* `SetOperator` — intersection and the two differences.
* `classItem?` — a character, a range or a class letter.
* `bracket?` — a bracketed class, after its opening bracket.

A recursive call consumes a sign, so the length of the text bounds the recursion.
-/

namespace DocQuery.Pattern

open DocQuery.Text

/-! ## Operators -/

/-- The operators between the operands of a bracketed class. -/
inductive SetOperator
  | inter
  | diff
  | symmDiff

/-- Applies an operator to two operands; letter case is settled first. -/
def SetOperator.apply (op : SetOperator) (flags : Flags) (a b : CharSet) : CharSet :=
  match op with
  | .inter => (flags.fold a).inter (flags.fold b)
  | .diff => (flags.fold a).diff (flags.fold b)
  | .symmDiff => (flags.fold a).symmDiff (flags.fold b)

/-- An operand that waits for the one on the right of its operator. -/
structure Pending where
  left : Nested CharSet
  op : SetOperator

/-- The last items of a class as an operand, joined to what waits in front of it. -/
def operand (flags : Flags) (pending : Option Pending) (items : List (Nested CharSet)) :
    Nested CharSet :=
  let right := Nested.join List.flatten items
  match pending with
  | none => right
  | some { left, op } => Nested.pair (op.apply flags) left right

/-! ## Items -/

/-- A named set inside brackets, after the opening bracket. -/
def posixClass? (flags : Flags) (s : List Char) : Option (CharSet × Bool × List Char) := do
  let s ← char? ':' s
  let (negated, s) := match s with
    | '^' :: rest => (true, rest)
    | _ => (false, s)
  let name := s.takeWhile (· != ':')
  let after ← char? ']' (← char? ':' (s.drop name.length))
  some (flags.fold (← CharSet.posix? (String.ofList name)), negated, after)

def classPart? (flags : Flags) : List Char → Option (Escape × List Char)
  | [] => none
  | '\\' :: rest => escape? flags rest
  | c :: rest => some (.char c, rest)

/-- Characters from one to another; beyond ASCII they take the Unicode flag. -/
def charRange? (flags : Flags) (first last : Char) : Option CharSet :=
  if first ≤ last then flags.checked? [(first.toNat, last.toNat)] else none

def Escape.set? (flags : Flags) : Escape → Option CharSet
  | .char c => charRange? flags c c
  | .set members => some members
  | .place _ => none

/--
The sign that decides whether a hyphen is the sign of a range, after the hyphen. Where blanks are
ignored they are passed over, and so is the sign of one comment, but not its text.
-/
def signAfterHyphen? (flags : Flags) (s : List Char) : Option Char :=
  if flags.verbose then
    match skipBlanks s with
    | '#' :: rest => (skipBlanks rest).head?
    | s => s.head?
  else s.head?

/-- A character, a range or a class letter inside brackets. -/
def classItem? (flags : Flags) (s : List Char) : Option (CharSet × List Char) := do
  let (first, rest) ← classPart? flags s
  match flags.skip rest with
  | '-' :: more =>
    match signAfterHyphen? flags more with
    | some ']' | some '-' => some (← first.set? flags, '-' :: more)
    | _ => do
      match first, ← classPart? flags (flags.skip more) with
      | .char a, (.char b, after) => some (← charRange? flags a b, after)
      | _, _ => none
  | rest => some (← first.set? flags, rest)

/-- The hyphens at the start of a class, each of them for itself. -/
def leadingHyphens (flags : Flags) : Nat → List Char → List (Nested CharSet) × List Char
  | 0, s => ([], s)
  | fuel + 1, s =>
    match s with
    | '-' :: rest =>
      let (more, after) := leadingHyphens flags fuel (flags.skip rest)
      (.leaf [(0x2d, 0x2d)] :: more, after)
    | _ => ([], s)

/-- The first items of a class: hyphens, or else a closing bracket. -/
def leadingItems (flags : Flags) (s : List Char) : List (Nested CharSet) × List Char :=
  match s with
  | ']' :: rest => ([.leaf [(0x5d, 0x5d)]], rest)
  | _ => leadingHyphens flags (s.length + 1) s

/-! ## Classes -/

mutual

def bracket? : Nat → Flags → List Char → Option (Nested CharSet × List Char)
  | 0, _, _ => none
  | fuel + 1, flags, s => do
    let s := flags.skip s
    let (negated, s) := match s with
      | '^' :: rest => (true, flags.skip rest)
      | _ => (false, s)
    let (items, s) := leadingItems flags s
    let (inner, rest) ← classItems? fuel flags none items s
    let set ← flags.checked? (flags.foldThenNegate negated inner.value)
    some (⟨set, inner.depth + 1⟩, rest)

def classItems? : Nat → Flags → Option Pending → List (Nested CharSet) → List Char →
    Option (Nested CharSet × List Char)
  | 0, _, _, _, _ => none
  | fuel + 1, flags, pending, items, s =>
    match flags.skip s with
    | [] => none
    | ']' :: rest => some (operand flags pending items, rest)
    | '[' :: rest =>
      match posixClass? flags rest with
      | some (set, negated, after) => do
        let set ← flags.checked? (if negated then set.complement else set)
        classItems? fuel flags pending (.leaf set :: items) after
      | none => do
        let (inner, after) ← bracket? fuel flags rest
        classItems? fuel flags pending (inner :: items) after
    | '&' :: '&' :: rest =>
      classItems? fuel flags (some ⟨operand flags pending items, .inter⟩) [] rest
    | '-' :: '-' :: rest =>
      classItems? fuel flags (some ⟨operand flags pending items, .diff⟩) [] rest
    | '~' :: '~' :: rest =>
      classItems? fuel flags (some ⟨operand flags pending items, .symmDiff⟩) [] rest
    | s => do
      let (set, after) ← classItem? flags s
      classItems? fuel flags pending (.leaf set :: items) after

end

end DocQuery.Pattern

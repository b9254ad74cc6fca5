import DocQuery.Number.Text
import DocQuery.Pattern.Bracket
import DocQuery.Pattern.Size

/-! # Reading patterns

The syntax of patterns: alternatives, sequences, repetitions, groups, bracketed classes, escapes,
and flags that hold to the end of their group. There are no back references, and nothing looks
ahead or behind.

* `counts?`, `repetitions?` — the repetitions after an expression.
* `groupHead?` — what stands after an opening parenthesis.
* `alternatives?` — a whole pattern.
* `Pattern.read?` — the pattern of a text, unless it is malformed or too deep.
* `Pattern.parse?` — the same, unless the pattern is too large.

Every recursive call consumes a character, so the length of the text bounds the recursion.
-/

namespace DocQuery.Pattern

open DocQuery.Text DocQuery.Number

/-! ## Single signs -/

def literal (flags : Flags) (c : Char) : Pattern := .char (flags.literalSet c)

/-- The pattern of any character, with or without line ends. -/
def dot? (flags : Flags) : Option Pattern :=
  if !flags.unicode then none
  else if flags.dotAll then some (.char Unicode.Ranges.full)
  else if flags.crlf then some (.char (Unicode.Ranges.complement [(0x0a, 0x0a), (0x0d, 0x0d)]))
  else some (.char (Unicode.Ranges.complement [(0x0a, 0x0a)]))

def escapePattern (flags : Flags) : Escape → Pattern
  | .char c => literal flags c
  | .set set => .char set
  | .place p => .place p

/-- The pattern of a single character or sign, for what is neither group nor class. -/
def simple? (flags : Flags) (c : Char) (rest : List Char) : Option (Pattern × List Char) :=
  match c with
  | '.' => (dot? flags).map (·, rest)
  | '^' =>
    some (.place (if flags.multiLine then .lineStart flags.crlf else .textStart), rest)
  | '$' => some (.place (if flags.multiLine then .lineEnd flags.crlf else .textEnd), rest)
  | '\\' => (escape? flags rest).map fun (escape, after) => (escapePattern flags escape, after)
  | _ => some (literal flags c, rest)

/-! ## Repetition -/

/-- Decimal digits, with what is ignored after each of them. -/
def countDigits (flags : Flags) : Nat → List Char → List Char × List Char
  | 0, s => ([], s)
  | fuel + 1, s =>
    match s with
    | [] => ([], [])
    | c :: rest =>
      if c.isDigit then
        let (more, after) := countDigits flags fuel (flags.skip rest)
        (c :: more, after)
      else ([], c :: rest)

def count? (flags : Flags) (s : List Char) : Option (Nat × List Char) :=
  let (digits, rest) := countDigits flags (s.length + 1) (skipBlanks s)
  let n := Nat.ofDigitChars 10 digits 0
  if digits.isEmpty || twoTo 32 ≤ n then none else some (n, skipBlanks rest)

def counts? (flags : Flags) (s : List Char) : Option (Nat × Option Nat × List Char) := do
  let (least, rest) ← count? flags (flags.skip s)
  match rest with
  | '\x7d' :: after => some (least, some least, after)
  | ',' :: rest =>
    match flags.skip rest with
    | '\x7d' :: after => some (least, none, after)
    | rest => do
      let (most, rest) ← count? flags rest
      let after ← char? '\x7d' rest
      if least ≤ most then some (least, some most, after) else none
  | _ => none

/-- The text after a mark that makes a repetition lazy, if there is one. -/
def dropLazy (s : List Char) : List Char :=
  match s with
  | '?' :: after => after
  | _ => s

def startsRepetition : List Char → Bool
  | c :: _ => c == '*' || c == '+' || c == '?' || c == '\x7b'
  | [] => false

/-- A repetition. Blanks may stand in front of the lazy mark of a counted one. -/
def repetition? (flags : Flags) : List Char → Option (Nat × Option Nat × List Char)
  | '*' :: rest => some (0, none, dropLazy rest)
  | '+' :: rest => some (1, none, dropLazy rest)
  | '?' :: rest => some (0, some 1, dropLazy rest)
  | '\x7b' :: rest =>
    (counts? flags rest).map fun (least, most, after) => (least, most, dropLazy (flags.skip after))
  | _ => none

def repetitions? : Nat → Flags → Nested Pattern → List Char → Option (Nested Pattern × List Char)
  | 0, _, _, _ => none
  | fuel + 1, flags, body, s =>
    let s := flags.skip s
    if startsRepetition s then do
      let (least, most, rest) ← repetition? flags s
      repetitions? fuel flags (body.deeper (.repeated · least most)) rest
    else some (body, s)

/-! ## Groups -/

/-- Reads flag letters; `seen` are the letters so far. -/
def flagLetters? (negated : Bool) (seen : List Char) (flags : Flags) :
    List Char → Option (Flags × List Char)
  | [] => none
  | c :: rest =>
    if c == ':' || c == ')' then
      if seen.head? == some '-' || (seen.isEmpty && c == ')') then none
      else some (flags, c :: rest)
    else if seen.contains c then none
    else if c == '-' then flagLetters? true ('-' :: seen) flags rest
    else match flags.set? c (!negated) with
      | some flags => flagLetters? negated (c :: seen) flags rest
      | none => none

def isGroupName : List Char → Bool
  | [] => false
  | c :: rest =>
    (c == '_' || isAlphabetic c) &&
      rest.all fun c => c == '_' || c == '.' || c == '[' || c == ']' || isAlphanumeric c

/-- The name of a group, up to the closing angle bracket. -/
def groupName? (s : List Char) : Option (List Char × List Char) := do
  let name := s.takeWhile (· != '>')
  let after ← char? '>' (s.drop name.length)
  if isGroupName name then some (name, after) else none

/-- What stands after an opening parenthesis. -/
inductive GroupHead
  | numbered (rest : List Char)
  | named (name : List Char) (rest : List Char)
  | plain (flags : Flags) (rest : List Char)
  | setFlags (flags : Flags) (rest : List Char)

def groupHead? (flags : Flags) (s : List Char) : Option GroupHead :=
  match s with
  | '?' :: 'P' :: '<' :: rest => (groupName? rest).map fun (name, after) => .named name after
  | '?' :: '=' :: _ | '?' :: '!' :: _ | '?' :: '<' :: '=' :: _ | '?' :: '<' :: '!' :: _ => none
  | '?' :: '<' :: rest => (groupName? rest).map fun (name, after) => .named name after
  | '?' :: rest => do
    match ← flagLetters? false [] flags rest with
    | (inner, ':' :: after) => some (.plain inner after)
    | (inner, ')' :: after) => some (.setFlags inner after)
    | _ => none
  | _ => some (.numbered s)

/-! ## Sequences and alternatives -/

def inSequence : List Pattern → Pattern
  | [] => .empty
  | [last] => last
  | first :: rest => .seq first (inSequence rest)

def oneOf : List Pattern → Pattern
  | [] => .empty
  | [last] => last
  | first :: rest => .either first (oneOf rest)

/-- The state of reading: the flags, the names of groups so far, and the text that is left. -/
structure Reading where
  flags : Flags
  names : List (List Char)
  rest : List Char

mutual

/-- Alternatives up to a closing parenthesis or the end, after those that are given. -/
def alternatives? : Nat → List (Nested Pattern) → Reading → Option (Nested Pattern × Reading)
  | 0, _, _ => none
  | fuel + 1, branches, reading => do
    let (branch, reading) ← sequence? fuel [] reading
    let branches := branch :: branches
    match reading.rest with
    | '|' :: more => alternatives? fuel branches { reading with rest := more }
    | _ => some (Nested.join oneOf branches.reverse, reading)

/-- A sequence up to a bar, a closing parenthesis or the end, after the items that are given. -/
def sequence? : Nat → List (Nested Pattern) → Reading → Option (Nested Pattern × Reading)
  | 0, _, _ => none
  | fuel + 1, items, reading =>
    let { flags, names, rest := s } := reading
    let finished (rest : List Char) : Option (Nested Pattern × Reading) :=
      some (Nested.join inSequence items.reverse, ⟨flags, names, rest⟩)
    match flags.skip s with
    | [] => finished []
    | c :: rest =>
      if c == '|' || c == ')' then finished (c :: rest)
      else if startsRepetition (c :: rest) then none
      else if c == '(' then do
        match ← groupHead? flags (flags.skip rest) with
        | .setFlags inner after =>
          if startsRepetition (inner.skip after) then none
          else sequence? fuel (.leaf .empty :: items) ⟨inner, names, after⟩
        | .plain inner after =>
          let (body, inner) ← alternatives? fuel [] ⟨inner, names, after⟩
          let after ← char? ')' inner.rest
          continue? fuel items (body.deeper id) ⟨flags, inner.names, after⟩
        | .numbered after =>
          let (body, inner) ← alternatives? fuel [] ⟨flags, names, after⟩
          let after ← char? ')' inner.rest
          continue? fuel items (body.deeper .group) ⟨flags, inner.names, after⟩
        | .named name after =>
          if names.contains name then none
          else
            let (body, inner) ← alternatives? fuel [] ⟨flags, name :: names, after⟩
            let after ← char? ')' inner.rest
            continue? fuel items (body.deeper .group) ⟨flags, inner.names, after⟩
      else if c == '[' then do
        let (set, after) ← bracket? fuel flags rest
        continue? fuel items ⟨.char set.value.normalize, set.depth⟩ ⟨flags, names, after⟩
      else do
        let (body, after) ← simple? flags c rest
        continue? fuel items (.leaf body) ⟨flags, names, after⟩

/-- The repetitions of an expression, and the rest of its sequence. -/
def continue? : Nat → List (Nested Pattern) → Nested Pattern → Reading →
    Option (Nested Pattern × Reading)
  | 0, _, _, _ => none
  | fuel + 1, items, body, reading => do
    let (body, rest) ← repetitions? (reading.rest.length + 1) reading.flags body reading.rest
    sequence? fuel (body :: items) { reading with rest }

end

def maxDepth : Nat := 250

/-- The pattern of a text, unless it is malformed or too deep. -/
def read? (source : String) : Option Pattern := do
  let s := source.toList
  let (pattern, reading) ← alternatives? (4 * s.length + 8) [] ⟨.initial, [], s⟩
  if reading.rest.isEmpty && pattern.depth ≤ maxDepth then some pattern.value else none

/-- The pattern of a text, unless it is malformed, too deep or too large. -/
def parse? (source : String) : Option Pattern := (read? source).filter (·.isSmall)

end DocQuery.Pattern

import DocQuery.Pattern.Basic
import DocQuery.Pattern.Flags
import DocQuery.Pattern.Property

/-! # Escapes

What a backslash and the signs after it stand for.

* `Escape` — a character, a set, or a condition on a position.
* `hexCode?`, `propertySet?`, `boundary?`, `classLetter?` — the escapes of several signs, and the
  sets of single letters.
* `escape?` — any escape, after the backslash.
-/

namespace DocQuery.Pattern

open DocQuery.Text

/-- What an escape stands for. -/
inductive Escape
  | char (c : Char)
  | set (set : CharSet)
  | place (place : Place)

def charOfCode? (n : Nat) : Option Char :=
  if h : n.isValidChar then some (Char.ofNatAux n h) else none

/-- The value of hexadecimal digits; from a bound beyond all code points on it does not grow. -/
def hexNumber? (digits : List Char) : Option Nat := do
  let values ← digits.mapM hexValue?
  if values.isEmpty then none
  else some (values.foldl (fun n d => min (16 * n + d) 0x1000000) 0)

/-- The first `count` characters that are not ignored, and the text after them. -/
def takeSigns? (flags : Flags) : Nat → List Char → Option (List Char × List Char)
  | 0, s => some ([], s)
  | count + 1, s =>
    match flags.skip s with
    | [] => none
    | c :: rest => (takeSigns? flags count rest).map fun (more, after) => (c :: more, after)

/--
A code point in hexadecimal, of fixed length or in braces. Without the Unicode flag two digits are
a byte, which is a character only in ASCII.
-/
def hexCode? (flags : Flags) (count : Nat) (s : List Char) : Option (Char × List Char) :=
  match flags.skip s with
  | '\x7b' :: rest => do
    let (digits, after) ← flags.braced? (rest.length + 1) rest
    some (← charOfCode? (← hexNumber? digits), after)
  | s => do
    let (digits, after) ← takeSigns? flags count s
    let n ← hexNumber? digits
    if count == 2 && !flags.unicode && 0x80 ≤ n then none
    else some (← charOfCode? n, after)

/-- The set of a property, a letter or a name in braces. -/
def propertySet? (flags : Flags) (negated : Bool) (s : List Char) :
    Option (CharSet × List Char) :=
  if !flags.unicode then none
  else do
    let (name, after) ← match flags.skip s with
      | [] => none
      | '\x7b' :: rest => flags.braced? (rest.length + 1) rest
      | c :: rest => some ([c], rest)
    some (flags.foldThenNegate negated (← CharSet.property? name), after)

/-- Whether a character may stand in the kind of a boundary. -/
def isKindChar (c : Char) : Bool := c.isAlpha || c == '-'

/-- A word boundary, with its kind in braces. What cannot be a kind may still be a count. -/
def boundary? (flags : Flags) (s : List Char) : Option (Place × List Char) :=
  match s with
  | '\x7b' :: rest =>
    if (flags.skip rest).head?.any isKindChar then do
      let (kind, after) ← flags.braced? (rest.length + 1) rest
      match String.ofList kind with
      | "start" => some (.wordStart flags.unicode, after)
      | "end" => some (.wordEnd flags.unicode, after)
      | "start-half" => some (.halfStart flags.unicode, after)
      | "end-half" => some (.halfEnd flags.unicode, after)
      | _ => none
    else some (.boundary flags.unicode true, s)
  | _ => some (.boundary flags.unicode true, s)

/-- The set of a class letter; a capital stands for what is outside the set. -/
def classLetter? (flags : Flags) (c : Char) : Option CharSet := do
  let set ← match c.toLower with
    | 'd' => some (CharSet.digit flags.unicode)
    | 's' => some (CharSet.space flags.unicode)
    | 'w' => some (CharSet.word flags.unicode)
    | _ => none
  flags.checked? (if c.isUpper then set.complement else set)

/-- The escape of one sign. Every sign of ASCII that has no meaning of its own stands for itself. -/
def signEscape? (flags : Flags) (c : Char) : Option Escape :=
  match c with
  | 'a' => some (.char '\x07')
  | 'f' => some (.char '\x0c')
  | 't' => some (.char '\t')
  | 'n' => some (.char '\n')
  | 'r' => some (.char '\r')
  | 'v' => some (.char '\x0b')
  | 'A' => some (.place .textStart)
  | 'z' => some (.place .textEnd)
  | 'B' => some (.place (.boundary flags.unicode false))
  | '<' => some (.place (.wordStart flags.unicode))
  | '>' => some (.place (.wordEnd flags.unicode))
  | _ => if c.toNat < 0x80 && !c.isAlphanum then some (.char c) else none

def escape? (flags : Flags) : List Char → Option (Escape × List Char)
  | [] => none
  | c :: rest =>
    match c with
    | 'x' => (hexCode? flags 2 rest).map fun (d, after) => (.char d, after)
    | 'u' => (hexCode? flags 4 rest).map fun (d, after) => (.char d, after)
    | 'U' => (hexCode? flags 8 rest).map fun (d, after) => (.char d, after)
    | 'p' => (propertySet? flags false rest).map fun (set, after) => (.set set, after)
    | 'P' => (propertySet? flags true rest).map fun (set, after) => (.set set, after)
    | 'b' => (boundary? flags rest).map fun (p, after) => (.place p, after)
    | 'd' | 's' | 'w' | 'D' | 'S' | 'W' => (classLetter? flags c).map fun set => (.set set, rest)
    | _ => (signEscape? flags c).map fun escape => (escape, rest)

end DocQuery.Pattern

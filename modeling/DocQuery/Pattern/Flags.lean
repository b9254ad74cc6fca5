import DocQuery.Pattern.CharSet
import DocQuery.Text.Scan

/-! # Flags of patterns

Flags change how the rest of a group is read.

* `Flags` — what the flag letters switch.
* `Flags.skip` — the text after what is ignored between signs.
* `Flags.fold`, `Flags.foldThenNegate`, `Flags.checked?` — sets under flags.
-/

namespace DocQuery.Pattern

open DocQuery.Text

/-- What the flag letters switch. Greed does not matter for whether a pattern occurs. -/
structure Flags where
  ignoreCase : Bool
  multiLine : Bool
  dotAll : Bool
  unicode : Bool
  verbose : Bool
  crlf : Bool

namespace Flags

def initial : Flags := ⟨false, false, false, true, false, false⟩

def set? (flags : Flags) (letter : Char) (value : Bool) : Option Flags :=
  match letter with
  | 'i' => some { flags with ignoreCase := value }
  | 'm' => some { flags with multiLine := value }
  | 's' => some { flags with dotAll := value }
  | 'U' => some flags
  | 'u' => some { flags with unicode := value }
  | 'x' => some { flags with verbose := value }
  | 'R' => some { flags with crlf := value }
  | _ => none

/-! ## Blanks and comments -/

def dropComment (s : List Char) : List Char := (s.dropWhile (· != '\n')).drop 1

/-- Drops blanks and comments; `fuel` bounds the number of comments. -/
def dropIgnored : Nat → List Char → List Char
  | 0, s => s
  | fuel + 1, s =>
    match skipBlanks s with
    | '#' :: rest => dropIgnored fuel (dropComment rest)
    | t => t

/-- The text after blanks and comments, where they are ignored. -/
def skip (flags : Flags) (s : List Char) : List Char :=
  if flags.verbose then dropIgnored (s.length + 1) s else s

/-- The text up to a closing brace without what is ignored in it, and the text after the brace. -/
def braced? (flags : Flags) : Nat → List Char → Option (List Char × List Char)
  | 0, _ => none
  | fuel + 1, s =>
    match flags.skip s with
    | [] => none
    | '\x7d' :: rest => some ([], rest)
    | c :: rest => (flags.braced? fuel rest).map fun (more, after) => (c :: more, after)

/-! ## Sets -/

/-- A set that must not match a part of a character: beyond ASCII it takes the Unicode flag. -/
def checked? (flags : Flags) (set : CharSet) : Option CharSet :=
  if flags.unicode || set.isAscii then some set else none

/-- A set with its case variants, if letter case is ignored. -/
def fold (flags : Flags) (set : CharSet) : CharSet :=
  if !flags.ignoreCase then set
  else if flags.unicode then set.foldCase
  else set.foldCase.asciiPart

/-- A set with its case variants, or, negated, what is outside of these. -/
def foldThenNegate (flags : Flags) (negated : Bool) (set : CharSet) : CharSet :=
  if negated then (flags.fold set).complement else flags.fold set

/-- One character as a set. Without the Unicode flag only ASCII has letter case. -/
def literalSet (flags : Flags) (c : Char) : CharSet :=
  let single := Unicode.Ranges.single c.toNat
  if !flags.ignoreCase then single
  else if flags.unicode then CharSet.variants c.toNat
  else if c.toNat < 0x80 then (CharSet.variants c.toNat).asciiPart
  else single

end Flags

end DocQuery.Pattern

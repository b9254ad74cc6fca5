import DocQuery.Number.Range
import DocQuery.Pattern.CharSet
import DocQuery.Text.Char

/-! # Patterns

Regular expressions, and whether one occurs in a text.

A set of positions of a text is a number whose bits are the positions. A pattern sends the set of
positions where an occurrence may start to the set of those where it may end, so that no choice
has to be taken back.

* `Pattern` — the expressions.
* `Pattern.reach` — from start positions to end positions.
* `Pattern.occursIn` — the test.
* `Pattern.needsUnicodeWords` — whether the word characters of all scripts decide a condition.
-/

namespace DocQuery

open DocQuery.Text Pattern

/-- A condition on a position. -/
inductive Pattern.Place
  | textStart
  | textEnd
  | lineStart (crlf : Bool)
  | lineEnd (crlf : Bool)
  | boundary (unicode : Bool) (expected : Bool)
  | wordStart (unicode : Bool)
  | wordEnd (unicode : Bool)
  | halfStart (unicode : Bool)
  | halfEnd (unicode : Bool)
  deriving DecidableEq

/-- A regular expression. -/
inductive Pattern
  | empty
  | char (set : CharSet)
  | place (place : Pattern.Place)
  | group (body : Pattern)
  | seq (first second : Pattern)
  | either (left right : Pattern)
  | repeated (body : Pattern) (least : Nat) (most : Option Nat)
  deriving Inhabited

namespace Pattern

/-- Whether a character is a word character, in the sense of all scripts or of ASCII. -/
def isWord (unicode : Bool) (c : Option Char) : Bool :=
  c.any fun c => if unicode then isWordChar c else CharSet.asciiWord.contains c.toNat

/-- Whether a condition holds between two neighbouring characters. -/
def Place.holds (before after : Option Char) : Place → Bool
  | .textStart => before.isNone
  | .textEnd => after.isNone
  | .lineStart false => before.isNone || before == some '\n'
  | .lineEnd false => after.isNone || after == some '\n'
  | .lineStart true =>
    before.isNone || before == some '\n' || (before == some '\r' && after != some '\n')
  | .lineEnd true =>
    after.isNone || after == some '\r' || (after == some '\n' && before != some '\r')
  | .boundary unicode expected => (isWord unicode before != isWord unicode after) == expected
  | .wordStart unicode => !isWord unicode before && isWord unicode after
  | .wordEnd unicode => isWord unicode before && !isWord unicode after
  | .halfStart unicode => !isWord unicode before
  | .halfEnd unicode => !isWord unicode after

abbrev Positions := Nat

/-- The positions of characters that pass a test, counted from a first position. -/
def charPositions (test : Char → Bool) : Nat → List Char → Positions
  | _, [] => 0
  | i, c :: rest => (if test c then 1 <<< i else 0) ||| charPositions test (i + 1) rest

/-- The positions where a condition holds, given the character before the text. -/
def placePositions (place : Place) : Option Char → Nat → List Char → Positions
  | before, i, [] => if place.holds before none then 1 <<< i else 0
  | before, i, c :: rest =>
    (if place.holds before (some c) then 1 <<< i else 0) |||
      placePositions place (some c) (i + 1) rest

/-- Adds what a step reaches until nothing new comes, or the rounds are used up. -/
def closure (step : Positions → Positions) : Nat → Positions → Positions
  | 0, starts => starts
  | rounds + 1, starts =>
    let more := starts ||| step starts
    if more == starts then starts else closure step rounds more

/-- The positions where occurrences end that start at the given ones. -/
def reach (text : List Char) : Pattern → Positions → Positions
  | .empty, starts => starts
  | .char set, starts =>
    (starts &&& charPositions (fun c => set.contains c.toNat) 0 text) <<< 1
  | .place p, starts => starts &&& placePositions p none 0 text
  | .group body, starts => reach text body starts
  | .seq first second, starts => reach text second (reach text first starts)
  | .either left right, starts => reach text left starts ||| reach text right starts
  | .repeated body least most, starts =>
    let required := Nat.repeat (reach text body) least starts
    match most with
    | none => closure (reach text body) (text.length + 1) required
    | some most => Nat.repeat (fun s => s ||| reach text body s) (most - least) required

def occursIn (pattern : Pattern) (text : String) : Bool :=
  let chars := text.toList
  pattern.reach chars (Number.twoTo (chars.length + 1) - 1) != 0

/-- Whether a condition depends on the word characters of all scripts. -/
def Place.needsUnicodeWords : Place → Bool
  | .boundary unicode _ => unicode
  | .wordStart unicode | .wordEnd unicode => unicode
  | .halfStart unicode | .halfEnd unicode => unicode
  | _ => false

/-- Whether some condition depends on the word characters of all scripts. What is never repeated
does not count. -/
def needsUnicodeWords : Pattern → Bool
  | .empty => false
  | .char _ => false
  | .place p => p.needsUnicodeWords
  | .group body => needsUnicodeWords body
  | .seq first second => needsUnicodeWords first || needsUnicodeWords second
  | .either left right => needsUnicodeWords left || needsUnicodeWords right
  | .repeated body _ most => most != some 0 && needsUnicodeWords body

end Pattern

end DocQuery

import DocQuery.Number.Range
import DocQuery.Time.Instant
import DocQuery.Text.Scan

/-! # Text of instants

Reading and writing of timestamps.

* `Instant.parseInternet` — the internet timestamp: four-digit year, two-digit fields, an offset.
* `Instant.parse?` — that, or one of the looser layouts without an offset.
* `Instant.text`, `Instant.millisText`, `Instant.sortableText` — three ways of writing one.
-/

namespace DocQuery.Time

open DocQuery.Text

/-- Why a timestamp cannot be read. -/
inductive TimeError
  | tooShort
  | invalid
  | outOfRange
  | trailing
  deriving DecidableEq

def TimeError.message : TimeError → String
  | .tooShort => "premature end of input"
  | .invalid => "input contains invalid characters"
  | .outOfRange => "input is out of range"
  | .trailing => "trailing input"

/-! ## Writing -/

/-- A natural in decimal, with zeros in front up to the given width. -/
def padded (width n : Nat) : List Char :=
  let digits := Nat.toDigits 10 n
  List.replicate (width - digits.length) '0' ++ digits

/-- A year: four digits, or a sign and at least four digits beyond that range. -/
def yearText (year : Int) : List Char :=
  if 0 ≤ year && year ≤ 9999 then padded 4 year.toNat
  else (if year < 0 then '-' else '+') :: padded 4 year.natAbs

namespace Instant

/-- Date and time to the second, with `T` between them; a leap second is second 60. -/
def secondsText (t : Instant) : List Char :=
  let second := t.second % 60 + if t.isLeap then 1 else 0
  yearText t.date.year ++ '-' :: padded 2 t.date.month ++ '-' :: padded 2 t.date.day ++
    'T' :: padded 2 (t.second / 3600) ++ ':' :: padded 2 (t.second / 60 % 60) ++
    ':' :: padded 2 second

/-- The nanoseconds within the second that `secondsText` writes. -/
def fraction (t : Instant) : Nat :=
  if t.isLeap then t.nano - nanosPerSecond else t.nano

/-- The fewest of 0, 3, 6 and 9 fraction digits that lose nothing. -/
def fractionText (nano : Nat) : List Char :=
  if nano == 0 then []
  else if nano % 1000000 == 0 then '.' :: padded 3 (nano / 1000000)
  else if nano % 1000 == 0 then '.' :: padded 6 (nano / 1000)
  else '.' :: padded 9 nano

def text (t : Instant) : String :=
  String.ofList (t.secondsText ++ fractionText t.fraction ++ ['Z'])

/-- The timestamp in universal time, cut to milliseconds. -/
def millisText (t : Instant) : String :=
  String.ofList (t.secondsText ++ '.' :: padded 3 (t.fraction / 1000000) ++ ['Z'])

/-- The timestamp with seven fraction digits, so that text order is order in time. -/
def sortableText (t : Instant) : String :=
  String.ofList (t.secondsText ++ '.' :: padded 7 (t.nano / 100) ++ ['Z'])

end Instant

/-! ## Reading -/

def byteLength (s : List Char) : Nat := s.foldl (fun n c => n + c.utf8Size) 0

def fixedDigits : Nat → Nat → List Char → Except TimeError (Nat × List Char)
  | 0, value, s => .ok (value, s)
  | _ + 1, _, [] => .error .tooShort
  | count + 1, value, c :: rest =>
    match digitValue? c with
    | some d => fixedDigits count (10 * value + d) rest
    | none => .error .invalid

def expect (expected : Char) : List Char → Except TimeError (List Char)
  | [] => .error .tooShort
  | c :: rest => if c = expected then .ok rest else .error .invalid

/-- Reads at least one and at most `limit` ASCII digits. -/
def someDigits (limit : Nat) (s : List Char) : Except TimeError (List Char × List Char) :=
  match s, (s.take limit).takeWhile Char.isDigit with
  | [], _ => .error .tooShort
  | _ :: _, [] => .error .invalid
  | _, digits => .ok (digits, s.drop digits.length)

/-- Nanoseconds after a point: up to nine digits count, further ones are dropped. -/
def nanoseconds (s : List Char) : Except TimeError (Nat × List Char) := do
  let (digits, rest) ← someDigits 9 s
  .ok (Nat.ofDigitChars 10 digits 0 * Number.tenTo (9 - digits.length), rest.dropWhile Char.isDigit)

/-- The offset from universal time in minutes: `Z`, or a sign, hours, a colon and minutes. -/
def offsetMinutes : List Char → Except TimeError (Int × List Char)
  | [] => .error .tooShort
  | c :: rest =>
    if c == 'Z' || c == 'z' then .ok (0, rest)
    else if c == '+' || c == '-' || c == '\u2212' then
      if byteLength rest < 2 then .error .tooShort
      else do
        let (hours, rest) ← fixedDigits 2 0 rest
        let rest ← expect ':' rest
        if byteLength rest < 2 then .error .tooShort
        else
          let (minutes, rest) ← fixedDigits 2 0 rest
          if 60 ≤ minutes then .error .outOfRange
          else
            let total : Int := hours * 60 + minutes
            .ok (if c == '+' then total else -total, rest)
    else .error .invalid

namespace Instant

/-- Reads an internet timestamp and brings it to universal time. -/
def parseInternet (s : String) : Except TimeError Instant := do
  if s.utf8ByteSize < 19 then throw .tooShort
  let (year, s) ← fixedDigits 4 0 s.toList
  let s ← expect '-' s
  let (month, s) ← fixedDigits 2 0 s
  let s ← expect '-' s
  let (day, s) ← fixedDigits 2 0 s
  let some date := Date.of? year month day | throw .outOfRange
  let s ← match s with
    | c :: rest => if c == 'T' || c == 't' || c == ' ' then .ok rest else .error .invalid
    | [] => .error .tooShort
  let (hour, s) ← fixedDigits 2 0 s
  let s ← expect ':' s
  let (minute, s) ← fixedDigits 2 0 s
  let s ← expect ':' s
  let (second, s) ← fixedDigits 2 0 s
  let (nano, s) ← match s with
    | '.' :: rest => nanoseconds rest
    | _ => .ok (0, s)
  let (second, nano) := if second == 60 then (59, nano + nanosPerSecond) else (second, nano)
  if 24 ≤ hour || 60 ≤ minute || 60 ≤ second then throw .outOfRange
  let some local_ := of? date (hour * 3600 + minute * 60 + second) nano | throw .outOfRange
  let (offset, s) ← offsetMinutes s
  if offset < -1439 || 1439 < offset then throw .outOfRange
  if !s.isEmpty then throw .trailing
  return local_.addMinutes (-offset)

/-- Reads a field of a loose layout: blanks, then one or up to `width` digits. -/
def looseField? (width : Nat) (s : List Char) : Option (Nat × List Char) :=
  match someDigits width (skipBlanks s) with
  | .ok (digits, rest) => some (Nat.ofDigitChars 10 digits 0, rest)
  | .error _ => none

/-- Reads the year of a loose layout: up to four digits, or any number of them after a sign. -/
def looseYear? (s : List Char) : Option (Int × List Char) :=
  match skipBlanks s with
  | '-' :: rest => (looseField? rest.length rest).bind fun (n, after) =>
      if rest.head?.any Char.isDigit then some (-n, after) else none
  | '+' :: rest => (looseField? rest.length rest).bind fun (n, after) =>
      if rest.head?.any Char.isDigit then some (n, after) else none
  | rest => (looseField? 4 rest).map fun (n, after) => (n, after)

/-- Reads a date of a loose layout with the given separator. -/
def looseDate? (separator : Char) (s : List Char) : Option (Date × List Char) := do
  let (year, s) ← looseYear? s
  let s ← char? separator s
  let (month, s) ← looseField? 2 s
  let s ← char? separator s
  let (day, s) ← looseField? 2 s
  let date ← Date.of? year month day
  if yearInRange year then some (date, s) else none

/-- Reads a time of day of a loose layout, to the end of the text. -/
def looseTime? (s : List Char) : Option (Nat × Nat) := do
  let (hour, s) ← looseField? 2 s
  let s ← char? ':' s
  let (minute, s) ← looseField? 2 s
  let s ← char? ':' s
  let (second, s) ← looseField? 2 s
  let (nano, s) ← match s with
    | '.' :: rest => (nanoseconds rest).toOption
    | _ => some (0, s)
  if !s.isEmpty || 24 ≤ hour || 60 ≤ minute || 60 < second then none
  else
    let start := hour * 3600 + minute * 60
    if second == 60 then some (start + 59, nano + nanosPerSecond)
    else some (start + second, nano)

def looseInstant? (dateSeparator : Char) (between : List Char → Option (List Char))
    (s : List Char) : Option Instant := do
  let (date, s) ← looseDate? dateSeparator s
  let (second, nano) ← looseTime? (← between s)
  of? date second nano

def looseMidnight? (separator : Char) (s : List Char) : Option Instant := do
  let (date, s) ← looseDate? separator s
  if s.isEmpty then some (midnight date) else none

/--
Reads a timestamp in any accepted layout, tried in order: the internet timestamp, then dates with
a time and dates alone, which are taken as universal time.
-/
def parse? (text : String) : Option Instant :=
  let s := text.toList
  match parseInternet text with
  | .ok t => some t
  | .error _ =>
    (looseInstant? '-' (some ∘ skipBlanks) s)
      <|> (looseInstant? '-' (char? 'T') s)
      <|> (looseInstant? '/' (some ∘ skipBlanks) s)
      <|> (looseMidnight? '-' s)
      <|> (looseMidnight? '/' s)

end Instant

end DocQuery.Time

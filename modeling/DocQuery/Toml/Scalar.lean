import DocQuery.Json.Basic
import DocQuery.Time.Text

/-! # Scalars of TOML

* `string?` — the four kinds of quoted text.
* `scalar?` — truth values, numbers and dates, each from the word that it is written as.
-/

namespace DocQuery.Toml

open DocQuery.Text DocQuery.Number DocQuery.Time

def isGap (c : Char) : Bool := c == ' ' || c == '\t'

def skipGap (s : List Char) : List Char := s.dropWhile isGap

/-- Whether a character may stand in comments and quoted text. -/
def isPlain (c : Char) : Bool := c == '\t' || (0x20 ≤ c.toNat && c.toNat != 0x7f)

/-- The text after a line end, which a carriage return may precede. -/
def lineEnd? : List Char → Option (List Char)
  | '\n' :: rest => some rest
  | '\r' :: '\n' :: rest => some rest
  | _ => none

/-! ## Quoted text -/

/-- The character that an escape with one letter stands for. -/
def escaped? (c : Char) : Option Char :=
  match c with
  | '"' => some '"'
  | '\\' => some '\\'
  | 'b' => some '\x08'
  | 'f' => some '\x0c'
  | 'n' => some '\n'
  | 'r' => some '\r'
  | 't' => some '\t'
  | _ => none

def numbered? (digits : List Char) : Option Char := do
  let n := (← digits.mapM hexValue?).foldl (fun n d => 16 * n + d) 0
  if n < 0xd800 || (0xe000 ≤ n && n < 0x110000) then some (Char.ofNat n) else none

def consChar (c : Option Char) (more : Option (List Char × List Char)) :
    Option (List Char × List Char) := do
  let c ← c
  let (read, rest) ← more
  some (c :: read, rest)

def basicText? : List Char → Option (List Char × List Char)
  | [] => none
  | '"' :: rest => some ([], rest)
  | '\\' :: 'u' :: a :: b :: c :: d :: rest =>
    consChar (numbered? [a, b, c, d]) (basicText? rest)
  | '\\' :: 'U' :: a :: b :: c :: d :: e :: f :: g :: h :: rest =>
    consChar (numbered? [a, b, c, d, e, f, g, h]) (basicText? rest)
  | '\\' :: c :: rest => consChar (escaped? c) (basicText? rest)
  | c :: rest => if isPlain c then consChar (some c) (basicText? rest) else none

/-- Whether a backslash before the text takes the line end away: only gaps come before it. -/
def joinsLines (s : List Char) : Bool := (lineEnd? (skipGap s)).isSome

/--
Text up to three double quotes, over several lines. One or two further quotes belong to the text.
With `joining`, gaps and line ends are passed over until something else comes.
-/
def longBasicText? : Bool → List Char → Option (List Char × List Char)
  | _, [] => none
  | _, '"' :: '"' :: '"' :: '"' :: '"' :: rest => some (['"', '"'], rest)
  | _, '"' :: '"' :: '"' :: '"' :: rest => some (['"'], rest)
  | _, '"' :: '"' :: '"' :: rest => some ([], rest)
  | _, '\\' :: 'u' :: a :: b :: c :: d :: rest =>
    consChar (numbered? [a, b, c, d]) (longBasicText? false rest)
  | _, '\\' :: 'U' :: a :: b :: c :: d :: e :: f :: g :: h :: rest =>
    consChar (numbered? [a, b, c, d, e, f, g, h]) (longBasicText? false rest)
  | _, '\\' :: c :: rest =>
    if joinsLines (c :: rest) then longBasicText? true rest
    else consChar (escaped? c) (longBasicText? false rest)
  | joining, '\r' :: '\n' :: rest =>
    if joining then longBasicText? true rest
    else consChar (some '\n') (longBasicText? false rest)
  | joining, c :: rest =>
    if joining && (isGap c || c == '\n') then longBasicText? true rest
    else if isPlain c || c == '\n' then consChar (some c) (longBasicText? false rest)
    else none

/-- Text up to a single quote, on one line and without escapes. -/
def literalText? : List Char → Option (List Char × List Char)
  | [] => none
  | '\'' :: rest => some ([], rest)
  | c :: rest => if isPlain c then consChar (some c) (literalText? rest) else none

/-- Text up to three single quotes, over several lines and without escapes. -/
def longLiteralText? : List Char → Option (List Char × List Char)
  | [] => none
  | '\'' :: '\'' :: '\'' :: '\'' :: '\'' :: rest => some (['\'', '\''], rest)
  | '\'' :: '\'' :: '\'' :: '\'' :: rest => some (['\''], rest)
  | '\'' :: '\'' :: '\'' :: rest => some ([], rest)
  | '\r' :: '\n' :: rest => consChar (some '\n') (longLiteralText? rest)
  | c :: rest =>
    if isPlain c || c == '\n' then consChar (some c) (longLiteralText? rest) else none

def dropLineEnd (s : List Char) : List Char := (lineEnd? s).getD s

/-- Quoted text of any kind, from its opening quote on. -/
def string? (s : List Char) : Option (String × List Char) := do
  let (text, rest) ← match s with
    | '"' :: '"' :: '"' :: rest => longBasicText? false (dropLineEnd rest)
    | '"' :: rest => basicText? rest
    | '\'' :: '\'' :: '\'' :: rest => longLiteralText? (dropLineEnd rest)
    | '\'' :: rest => literalText? rest
    | _ => none
  some (String.ofList text, rest)

/-! ## Numbers -/

/-- Digits of a class without the underscores between them; every underscore has a digit on both
sides. -/
def plainDigits? (member : Char → Bool) : List Char → Option (List Char)
  | [] => none
  | [c] => if member c then some [c] else none
  | c :: '_' :: rest => if member c then (plainDigits? member rest).map (c :: ·) else none
  | c :: rest => if member c then (plainDigits? member rest).map (c :: ·) else none

/-- Decimal digits of an integer, which start with zero only if there is one digit. -/
def wholeDigits? (s : List Char) : Option (List Char) := do
  let digits ← plainDigits? Char.isDigit s
  if digits.length != 1 && digits.head? == some '0' then none else some digits

def boundedInteger? (n : Int) : Option Json := if fitsInt n then some (.integer n) else none

def decimalInteger? (word : List Char) : Option Json := do
  let (negative, s) := takeSign word
  let n := Nat.ofDigitChars 10 (← wholeDigits? s) 0
  boundedInteger? (if negative then -Int.ofNat n else n)

def basedInteger? (base : Nat) (s : List Char) : Option Json := do
  let member (c : Char) := (hexValue? c).any (· < base)
  let values ← (← plainDigits? member s).mapM hexValue?
  let n : Nat := values.foldl (fun n d => base * n + d) 0
  boundedInteger? n

/-- An integer, in decimal or with the mark of another base. -/
def integer? : List Char → Option Json
  | '0' :: 'x' :: s => basedInteger? 16 s
  | '0' :: 'o' :: s => basedInteger? 8 s
  | '0' :: 'b' :: s => basedInteger? 2 s
  | s => decimalInteger? s

def isExponentMark (c : Char) : Bool := c == 'e' || c == 'E'

/-- A number that is not an integer; it needs a fraction or an exponent, and a finite value. -/
def finiteFloat? (word : List Char) : Option Json := do
  let (_, unsigned) := takeSign word
  let significand := unsigned.takeWhile (!isExponentMark ·)
  let _ ← wholeDigits? (significand.takeWhile (· != '.'))
  match significand.dropWhile (· != '.') with
  | [] => if significand.length < unsigned.length then some () else none
  | _ :: fraction => (plainDigits? Char.isDigit fraction).map fun _ => ()
  match unsigned.dropWhile (!isExponentMark ·) with
  | [] => some ()
  | _ :: exponent => (plainDigits? Char.isDigit (takeSign exponent).2).map fun _ => ()
  let x ← parseFloat? (word.filter (· != '_'))
  if x == Binary64.infinity false then none else some (.float x)

def specialFloat? (word : List Char) : Option Json :=
  let (negative, s) := takeSign word
  if s == ['i', 'n', 'f'] then some (.float (Binary64.infinity negative))
  else if s == ['n', 'a', 'n'] then some (.float (0.0 / 0.0))
  else none

/-! ## Dates and times -/

/-- Reads exactly two digits of a number up to a bound. -/
def twoDigits? (bound : Nat) (s : List Char) : Option (Nat × List Char) := do
  let (n, rest) ← (fixedDigits 2 0 s).toOption
  if n ≤ bound then some (n, rest) else none

def date? (s : List Char) : Option (List Char) := do
  let (year, s) ← (fixedDigits 4 0 s).toOption
  let (month, s) ← twoDigits? 12 (← char? '-' s)
  let (day, s) ← twoDigits? 31 (← char? '-' s)
  let _ ← Date.of? year month day
  some s

def time? (s : List Char) : Option (List Char) := do
  let (_, s) ← twoDigits? 23 s
  let (_, s) ← twoDigits? 59 (← char? ':' s)
  let (_, s) ← twoDigits? 60 (← char? ':' s)
  match s with
  | '.' :: fraction => (run? Char.isDigit fraction).map (·.2)
  | _ => some s

def offset? : List Char → Option Unit
  | [] => some ()
  | [c] => if c == 'Z' || c == 'z' then some () else none
  | c :: rest => do
    let (_, s) ← twoDigits? 23 rest
    let (_, s) ← twoDigits? 59 (← char? ':' s)
    if (c == '+' || c == '-') && s.isEmpty then some () else none

def between? : List Char → Option (List Char)
  | c :: rest => if c == 'T' || c == 't' || c == ' ' then some rest else none
  | [] => none

/-- Whether a word is a date, a time, or a date and a time with an optional offset. -/
def isMoment (word : List Char) : Bool :=
  match date? word with
  | some [] => true
  | some rest => ((between? rest).bind time?).any fun after => (offset? after).isSome
  | none => time? word == some []

/-- A date or time; what it says is kept as text under a name of its own. -/
def moment? (word : List Char) : Option Json :=
  if isMoment word then some (.single "$moment" (.string (String.ofList word))) else none

/-! ## Words -/

/-- Whether a character belongs to the word of a scalar. -/
def isScalarChar (c : Char) : Bool :=
  c.isAlphanum || c == '_' || c == '+' || c == '-' || c == '.' || c == ':'

/-- The word of a scalar; a date takes a time with it that follows after one space. -/
def scalarWord (s : List Char) : List Char × List Char :=
  let word := s.takeWhile isScalarChar
  match date? word, s.dropWhile isScalarChar with
  | some [], ' ' :: c :: rest =>
    if c.isDigit then
      (word ++ ' ' :: (c :: rest).takeWhile isScalarChar, (c :: rest).dropWhile isScalarChar)
    else (word, ' ' :: c :: rest)
  | _, rest => (word, rest)

def truth? (word : List Char) : Option Json :=
  if word == ['t', 'r', 'u', 'e'] then some (.bool true)
  else if word == ['f', 'a', 'l', 's', 'e'] then some (.bool false)
  else none

def scalar? (s : List Char) : Option (Json × List Char) :=
  let (word, rest) := scalarWord s
  (truth? word <|> moment? word <|> integer? word <|> finiteFloat? word <|> specialFloat? word).map
    (·, rest)

end DocQuery.Toml

import DocQuery.Text.Quoting
import DocQuery.Value.Basic

/-! # Literals

The written values of statements. Every text is a literal: what no rule reads is a string.

* `Literal.parse` — the rules, the first that fits winning.
* `Literal.text` — the written form.
* `Literal.toValue` — the value that a literal denotes.
-/

namespace DocQuery

open DocQuery.Text DocQuery.Number DocQuery.Time

/-- A written value. -/
inductive Literal
  | null
  | bool (b : Bool)
  | int (n : Int64)
  | double (x : Float)
  | instant (t : Instant)
  | objectId (id : ObjectId)
  | string (s : String)
  deriving Inhabited

namespace Literal

def toValue : Literal → Value
  | .null => .null
  | .bool b => .bool b
  | .int n => .int64 n
  | .double x => .float x
  | .instant t => .instant t
  | .objectId id => .objectId id
  | .string s => .string s

def doubleText (x : Float) : String :=
  let plain := floatText plainStyle x
  if plain.toList.contains '.' then plain else plain ++ ".0"

def objectIdText (id : ObjectId) : String := "ObjectId(\"" ++ id.hex ++ "\")"

def text : Literal → String
  | .null => "null"
  | .bool b => if b then "true" else "false"
  | .int n => toString n.toInt
  | .double x => doubleText x
  | .instant t => t.text
  | .objectId id => objectIdText id
  | .string s => "'" ++ s ++ "'"

/-! ## Reading -/

def magnitude : List Char → List Char
  | '-' :: rest => rest
  | s => s

/-- Whether the text is an optional minus sign and digits of any script. -/
def isInteger (s : List Char) : Bool :=
  let digits := magnitude s
  !digits.isEmpty && digits.all isDigit

/-- Whether the text is an optional minus sign, digits, a point and digits. -/
def isDecimal (s : List Char) : Bool :=
  match digits? (magnitude s) with
  | some (_, '.' :: rest) => !rest.isEmpty && rest.all isDigit
  | _ => false

def mark? : List Char → Option (List Char)
  | c :: rest => if isQuote c then some rest else none
  | [] => none

def objectIdCall? (s : List Char) : Option ObjectId := do
  let word := "ObjectId(".toList
  if !word.isPrefixOf s then none
  else
    let s ← mark? (skipBlanks (s.drop word.length))
    let id ← ObjectId.parse? (String.ofList (s.take 24))
    let s ← char? ')' (skipBlanks (← mark? (s.drop 24)))
    if s.isEmpty then some id else none

def word? (s : String) : Option Literal :=
  if eqIgnoreCase s "null" then some .null
  else if eqIgnoreCase s "true" then some (.bool true)
  else if eqIgnoreCase s "false" then some (.bool false)
  else none

def integer? (s : List Char) : Option Literal :=
  if isInteger s then (parseInt64? s).map .int else none

/-- A finite double, from a decimal or from an integer that is too large. -/
def double? (s : List Char) : Option Literal :=
  if isDecimal s || isInteger s then
    (parseFloat? s).bind fun x => if Binary64.isFinite x then some (.double x) else none
  else none

/--
Reads a literal: nothing is null, a quoted text is a string as it stands, and then come the words,
identifiers, integers, decimals and timestamps. Anything else is a string.
-/
def parse (text : String) : Literal :=
  let s := trim text.toList
  match s with
  | [] => .null
  | _ =>
    let t := String.ofList s
    match unquote? s with
    | some inner => .string (String.ofList inner)
    | none =>
      ((word? t) <|> ((objectIdCall? s).map Literal.objectId) <|> (integer? s) <|> (double? s)
        <|> ((Instant.parse? t).map Literal.instant)).getD (.string t)

end Literal

end DocQuery

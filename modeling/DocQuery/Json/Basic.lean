import DocQuery.Named
import DocQuery.Number.Text

/-! # JSON values and their text

* `Json` — a value; the members of an object are in the order of their names.
* `Json.text` — compact text.
-/

namespace DocQuery

open DocQuery.Number DocQuery.Text

/-- A JSON value. Numbers without fraction and exponent are kept exact. -/
inductive Json
  | null
  | bool (b : Bool)
  | integer (n : Int)
  | float (x : Float)
  | string (s : String)
  | array (items : List Json)
  | object (members : List (String × Json))
  deriving Inhabited

namespace Json

/--
Numbers in JSON: an exponent from `10 ^ 16` on and below `10 ^ -5`, a fraction digit otherwise.
What is not finite has no number and is written as `null`.
-/
def floatStyle : FloatStyle := ⟨some (-4, 16), ".0", .even, "null", "null"⟩

def numberText (x : Float) : String :=
  if Binary64.isFinite x then floatText floatStyle x else "null"

def escapeChar (c : Char) : List Char :=
  if c == '"' then ['\\', '"']
  else if c == '\\' then ['\\', '\\']
  else if c == '\n' then ['\\', 'n']
  else if c == '\r' then ['\\', 'r']
  else if c == '\t' then ['\\', 't']
  else if c == '\x08' then ['\\', 'b']
  else if c == '\x0c' then ['\\', 'f']
  else if c.toNat < 0x20 then
    ['\\', 'u', '0', '0', hexDigit (c.toNat / 16), hexDigit (c.toNat % 16)]
  else [c]

def quoted (s : String) : String :=
  String.ofList ('"' :: s.toList.flatMap escapeChar ++ ['"'])

mutual

def text : Json → String
  | .null => "null"
  | .bool b => if b then "true" else "false"
  | .integer n => toString n
  | .float x => numberText x
  | .string s => quoted s
  | .array items => "[" ++ join "," (itemTexts items) ++ "]"
  | .object members => "\x7b" ++ join "," (memberTexts members) ++ "\x7d"

def itemTexts : List Json → List String
  | [] => []
  | item :: rest => text item :: itemTexts rest

def memberTexts : List (String × Json) → List String
  | [] => []
  | (name, value) :: rest => (quoted name ++ ":" ++ text value) :: memberTexts rest

end

def single (name : String) (value : Json) : Json := .object [(name, value)]

/-- An object with the given members; the later of two with one name wins. -/
def ofMembers (members : List (String × Json)) : Json := .object (Named.ofList members)

def member? (name : String) : Json → Option Json
  | .object members => Named.get? name members
  | _ => none

end Json

end DocQuery

import DocQuery.Statement.Literal
import DocQuery.Value.Json

/-! # Parameters

A parameter is written into the text of a condition before the condition is read.

* `parameterText` — a value as it is written.
* `substitute` — the text with all parameters written in.
-/

namespace DocQuery

open DocQuery.Text

/-- Parameter values by name, the name with or without its mark. -/
abbrev Parameters := Named Value

namespace Parameters

/-- A string in double quotes, its double quotes escaped. -/
def quoted (s : String) : String :=
  String.ofList ('"' :: (s.toList.flatMap fun c => if c == '"' then ['\\', '"'] else [c]) ++ ['"'])

mutual

def parameterText : Value → String
  | .null => "null"
  | .bool b => if b then "true" else "false"
  | .int32 n => toString n.toInt
  | .int64 n => toString n.toInt
  | .float x => Literal.doubleText x
  | .string s => quoted s
  | .instant t => quoted t.sortableText
  | .objectId id => Literal.objectIdText id
  | .array items => "[" ++ join "," (parameterTexts items) ++ "]"
  | .binary bytes => quoted (Value.text (.binary bytes))
  | .object fields => quoted (Value.text (.object fields))

def parameterTexts : List Value → List String
  | [] => []
  | item :: rest => parameterText item :: parameterTexts rest

end

/--
Replaces all occurrences of a text from the left. `skip` counts the characters that still belong
to the occurrence before.
-/
def replaceFrom (needle by_ : List Char) : Nat → List Char → List Char
  | _, [] => []
  | skip + 1, _ :: rest => replaceFrom needle by_ skip rest
  | 0, c :: rest =>
    if needle.isPrefixOf (c :: rest) then by_ ++ replaceFrom needle by_ (needle.length - 1) rest
    else c :: replaceFrom needle by_ 0 rest

def replaceAll (needle by_ s : List Char) : List Char := replaceFrom needle by_ 0 s

def isMark (c : Char) : Bool := c == '@' || c == ':'

/-- The names without marks and their values; a longer name comes first, then the lesser. -/
def ordered (params : Parameters) : List (String × Value) :=
  let named := params.map fun (name, value) =>
    (String.ofList (name.toList.dropWhile isMark), value)
  -- a name that another one begins with is written in after it
  (named.filter fun entry => entry.1 != "").mergeSort fun a b =>
    b.1.utf8ByteSize < a.1.utf8ByteSize || (b.1.utf8ByteSize == a.1.utf8ByteSize && a.1 ≤ b.1)

def substituteOne (text : List Char) (name : String) (value : Value) : List Char :=
  let written := (parameterText value).toList
  replaceAll (':' :: name.toList) written (replaceAll ('@' :: name.toList) written text)

/-- The text with the parameters written in, one after the other. -/
def substitute (text : String) (params : Parameters) : String :=
  String.ofList ((ordered params).foldl (fun t entry => substituteOne t entry.1 entry.2)
    text.toList)

end Parameters

end DocQuery

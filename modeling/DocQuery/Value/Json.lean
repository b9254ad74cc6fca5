import DocQuery.Value.Basic
import DocQuery.Json.Basic

/-! # Values and JSON

Values are written as extended JSON: identifiers, instants and binary data are objects with one
reserved name. The first two are read back.

* `Value.toJson`, `Value.ofJson` — both directions.
* `Value.text` — how a value is shown in a table.
-/

namespace DocQuery

open DocQuery.Text DocQuery.Time DocQuery.Number

/-- Why JSON is not a value or a document. -/
inductive DecodeError
  | badObjectId (text : String)
  | badInstant (reason : TimeError)
  | notAnObject
  deriving DecidableEq

def DecodeError.message : DecodeError → String
  | .badObjectId text => "Invalid ObjectId: " ++ text
  | .badInstant reason => "Deserialization error: " ++ reason.message
  | .notAnObject => "Deserialization error: document must be a JSON object"

namespace Value

def hexBytes (bytes : List UInt8) : String :=
  String.ofList (bytes.flatMap fun b => [hexDigit (b.toNat / 16), hexDigit (b.toNat % 16)])

mutual

def toJson : Value → Json
  | .null => .null
  | .bool b => .bool b
  | .int32 n => .integer n.toInt
  | .int64 n => .integer n.toInt
  | .float x => if Binary64.isFinite x then .float x else .null
  | .string s => .string s
  | .binary bytes => .single "$binary" (.string (hexBytes bytes))
  | .array items => .array (toJsonItems items)
  | .object fields => .object (toJsonFields fields)
  | .objectId id => .single "$oid" (.string id.hex)
  | .instant t => .single "$date" (.string t.millisText)

def toJsonItems : List Value → List Json
  | [] => []
  | item :: rest => toJson item :: toJsonItems rest

def toJsonFields : List (String × Value) → List (String × Json)
  | [] => []
  | (name, value) :: rest => (name, toJson value) :: toJsonFields rest

end

mutual

/--
The value that JSON stands for. An object whose single name is reserved, with a string, is an
identifier or an instant.
-/
def ofJson : Json → Except DecodeError Value
  | .null => .ok .null
  | .bool b => .ok (.bool b)
  | .integer n =>
    if fitsInt n then .ok (.int64 (Int64.ofInt n))
    else .ok (.float (Binary64.ofInt n))
  | .float x => .ok (.float x)
  | .string s => .ok (.string s)
  | .array items => (ofJsonItems items).map .array
  | .object [("$oid", .string hex)] =>
    match ObjectId.parse? hex with
    | some id => .ok (.objectId id)
    | none => .error (.badObjectId hex)
  | .object [("$date", .string text)] =>
    match Instant.parseInternet text with
    | .ok t => .ok (.instant t)
    | .error reason => .error (.badInstant reason)
  | .object members => (ofJsonMembers members).map .object

def ofJsonItems : List Json → Except DecodeError (List Value)
  | [] => .ok []
  | item :: rest => do
    let value ← ofJson item
    let values ← ofJsonItems rest
    .ok (value :: values)

def ofJsonMembers : List (String × Json) → Except DecodeError (List (String × Value))
  | [] => .ok []
  | (name, item) :: rest => do
    let value ← ofJson item
    let fields ← ofJsonMembers rest
    .ok ((name, value) :: fields)

end

/-- A value as it is shown: scalars bare, arrays and objects as JSON. -/
def text : Value → String
  | .null => "null"
  | .bool b => if b then "true" else "false"
  | .int32 n => toString n.toInt
  | .int64 n => toString n.toInt
  | .float x => floatText plainStyle x
  | .string s => s
  | .binary bytes => hexBytes bytes
  | .array items => (toJson (.array items)).text
  | .object fields => (toJson (.object fields)).text
  | .objectId id => id.hex
  | .instant t => t.text

end Value

end DocQuery

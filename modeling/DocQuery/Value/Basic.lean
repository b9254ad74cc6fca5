import DocQuery.Named
import DocQuery.ObjectId
import DocQuery.Time.Text
import DocQuery.Number.Text

/-! # Values

The values that documents hold.

* `Value` — the type, with `Value.kind` for its brackets.
* `Value.compare` — the order of sorting and of range conditions.
* `Value.same` — equality of values of one representation.
* `Value.looseEq` — equality that disregards how a number is represented.
* `Value.depth` — nesting.
-/

namespace DocQuery

open DocQuery.Number DocQuery.Time

/-- A value of a document. The fields of an object are in the order of their names. -/
inductive Value
  | null
  | bool (b : Bool)
  | int32 (n : Int32)
  | int64 (n : Int64)
  | float (x : Float)
  | string (s : String)
  | binary (bytes : List UInt8)
  | array (items : List Value)
  | object (fields : List (String × Value))
  | objectId (id : ObjectId)
  | instant (t : Instant)
  deriving Inhabited

/-- The constructor of a value. -/
inductive Kind
  | null | bool | int32 | int64 | float | string | binary | array | object | objectId | instant
  deriving DecidableEq

namespace Value

def kind : Value → Kind
  | .null => .null
  | .bool _ => .bool
  | .int32 _ => .int32
  | .int64 _ => .int64
  | .float _ => .float
  | .string _ => .string
  | .binary _ => .binary
  | .array _ => .array
  | .object _ => .object
  | .objectId _ => .objectId
  | .instant _ => .instant

def isNull : Value → Bool
  | .null => true
  | _ => false

/-- Whether the value is a number of any representation. -/
def isNumber : Value → Bool
  | .int32 _ | .int64 _ | .float _ => true
  | _ => false

def isObject : Value → Bool
  | .object _ => true
  | _ => false

def isArray : Value → Bool
  | .array _ => true
  | _ => false

def asBool? : Value → Option Bool
  | .bool b => some b
  | _ => none

def asInt? : Value → Option Int64
  | .int32 n => some n.toInt64
  | .int64 n => some n
  | _ => none

def asFloat? : Value → Option Float
  | .int32 n => some (Binary64.ofInt n.toInt)
  | .int64 n => some (Binary64.ofInt n.toInt)
  | .float x => some x
  | _ => none

def asString? : Value → Option String
  | .string s => some s
  | _ => none

def asArray? : Value → Option (List Value)
  | .array items => some items
  | _ => none

def asObject? : Value → Option (Named Value)
  | .object fields => some fields
  | _ => none

/-! ## Order -/

/-- Order of doubles; what is not a number equals everything. -/
def compareFloat (x y : Float) : Ordering :=
  if x < y then .lt else if y < x then .gt else .eq

def compareBytes : List UInt8 → List UInt8 → Ordering
  | [], [] => .eq
  | [], _ :: _ => .lt
  | _ :: _, [] => .gt
  | a :: as, b :: bs => (Ord.compare a b).then (compareBytes as bs)

/-- Order of two numbers: exact for integers, as doubles when one of them is a double. -/
def compareNumbers (a b : Value) : Ordering :=
  match a.asInt?, b.asInt? with
  | some m, some n => Ord.compare m.toInt n.toInt
  | _, _ =>
    match a.asFloat?, b.asFloat? with
    | some x, some y => compareFloat x y
    | _, _ => .eq

/--
The order of values. Null is least, numbers of all representations share one order, and values of
kinds that have no order in common count as equal.
-/
def compare (a b : Value) : Ordering :=
  match a, b with
  | .null, .null => .eq
  | .null, _ => .lt
  | _, .null => .gt
  | .bool p, .bool q => Ord.compare p q
  | .string s, .string t => Ord.compare s t
  | .instant s, .instant t => s.compare t
  | .objectId i, .objectId j => i.compare j
  | .binary s, .binary t => compareBytes s t
  | a, b => if a.isNumber && b.isNumber then compareNumbers a b else .eq

/-! ## Equality -/

mutual

/-- Equality of values of one representation; doubles compare as numbers. -/
def same : Value → Value → Bool
  | .null, .null => true
  | .bool p, .bool q => p == q
  | .int32 m, .int32 n => m == n
  | .int64 m, .int64 n => m == n
  | .float x, .float y => x == y
  | .string s, .string t => s == t
  | .binary s, .binary t => s == t
  | .array s, .array t => sameItems s t
  | .object s, .object t => sameFields s t
  | .objectId i, .objectId j => i == j
  | .instant s, .instant t => s == t
  | _, _ => false

def sameItems : List Value → List Value → Bool
  | [], [] => true
  | a :: as, b :: bs => same a b && sameItems as bs
  | _, _ => false

def sameFields : List (String × Value) → List (String × Value) → Bool
  | [], [] => true
  | (m, a) :: as, (n, b) :: bs => m == n && same a b && sameFields as bs
  | _, _ => false

end

mutual

/-- Equality in which a number equals any number of the same size, also inside arrays. -/
def looseEq : Value → Value → Bool
  | .array s, .array t => looseEqItems s t
  | a, b =>
    if a.isNumber && b.isNumber then a.compare b == .eq else a.same b

def looseEqItems : List Value → List Value → Bool
  | [], [] => true
  | a :: as, b :: bs => looseEq a b && looseEqItems as bs
  | _, _ => false

end

/-! ## Nesting -/

mutual

/-- How many arrays and objects enclose the innermost part of the value. -/
def depth : Value → Nat
  | .array items => 1 + depthItems items
  | .object fields => 1 + depthFields fields
  | _ => 0

def depthItems : List Value → Nat
  | [] => 0
  | item :: rest => max (depth item) (depthItems rest)

def depthFields : List (String × Value) → Nat
  | [] => 0
  | (_, value) :: rest => max (depth value) (depthFields rest)

end

end Value

end DocQuery

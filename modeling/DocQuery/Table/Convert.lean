import DocQuery.Error
import DocQuery.Execute.Order

/-! # Reading cells

Conversions of a cell to the type that a caller asks for. A value without such a form is refused.

* `FromCell.toInt64`, `FromCell.toInt32`, `FromCell.toFloat`, `FromCell.toBool`,
  `FromCell.toText`, `FromCell.toInstant`, `FromCell.toObjectId`.
-/

namespace DocQuery.FromCell

open DocQuery.Text DocQuery.Number DocQuery.Time

def refuse {α : Type} (value : Value) (target : String) : Except SqlError α :=
  .error (.conversion (.mismatch value.text target))

def orRefuse {α : Type} (value : Value) (target : String) : Option α → Except SqlError α
  | some a => .ok a
  | none => refuse value target

def isWhole (x : Float) : Bool :=
  match Binary64.decode x with
  | .finite _ m q => 0 ≤ q || m % twoTo (-q).toNat == 0
  | _ => false

/-- An integer of 64 bits; a double without fraction is held within the range. -/
def int64? : Value → Option Int64
  | .float x => if isWhole x then some (Int64.ofInt (Binary64.toInt minInt maxInt x)) else none
  | .string s => parseInt64? (trim s.toList)
  | v => v.asInt?

def toInt64 (v : Value) : Except SqlError Int64 := orRefuse v "i64" (int64? v)

def toInt32 (v : Value) : Except SqlError Int :=
  orRefuse v "i32" do
    let n ← (int64? v).map Int64.toInt
    if -2147483648 ≤ n ∧ n < 2147483648 then some n else none

def toFloat (v : Value) : Except SqlError Float :=
  orRefuse v "f64" <| match v with
    | .string s => parseFloat? (trim s.toList)
    | v => v.asFloat?

/-- A truth value; a number is true unless it is zero. -/
def toBool (v : Value) : Except SqlError Bool :=
  orRefuse v "bool" <| match v with
    | .bool b => some b
    | .string s =>
      if eqIgnoreCase s "true" then some true
      else if eqIgnoreCase s "false" then some false
      else none
    | v => v.asFloat?.map (· != 0.0)

def toText (v : Value) : Except SqlError String :=
  if v.isNull then refuse v "String" else .ok v.text

def toInstant (v : Value) : Except SqlError Instant :=
  orRefuse v "DateTime" <| match v with
    | .instant t => some t
    | .string s => Instant.parse? s
    | _ => none

def toObjectId (v : Value) : Except SqlError ObjectId :=
  orRefuse v "ObjectId" <| match v with
    | .objectId id => some id
    | .string s => ObjectId.parse? s
    | _ => none

end DocQuery.FromCell

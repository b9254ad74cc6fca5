import DocQuery.Execute.Match
import DocQuery.Statement.Literal

/-! # Loose equality

Loose equality joins integers of different widths, also inside arrays. Among values without doubles
it joins only values that no condition tells apart.

* `Value.hasFloat` — there is a double in the value, at any depth.
* `Value.eq_of_same` — values of one representation without doubles are equal.
* `Value.looseEq_congr` — loosely equal values are loosely equal to the same values.
* `fieldEquals_congr` — and a field equals both or neither.
* `Literal.looseEq_toValue` — the value of a literal equals itself, also when it is a double.
-/

namespace DocQuery

namespace Value

mutual

/-- Whether a double occurs in the value. -/
def hasFloat : Value → Bool
  | .float _ => true
  | .array items => hasFloatItems items
  | .object fields => hasFloatFields fields
  | _ => false

def hasFloatItems : List Value → Bool
  | [] => false
  | item :: rest => hasFloat item || hasFloatItems rest

def hasFloatFields : List (String × Value) → Bool
  | [] => false
  | (_, value) :: rest => hasFloat value || hasFloatFields rest

end

/-! ## One representation -/

mutual

theorem eq_of_same {a b : Value} (equal : a.same b = true) (noFloat : a.hasFloat = false) :
    a = b := by
  cases a <;> cases b <;>
    simp only [same, hasFloat, beq_iff_eq, Bool.false_eq_true, Bool.true_eq_false] at equal noFloat
  case null.null => rfl
  case array.array s t => rw [eq_of_sameItems equal noFloat]
  case object.object s t => rw [eq_of_sameFields equal noFloat]
  all_goals rw [equal]

theorem eq_of_sameItems {s t : List Value} (equal : sameItems s t = true)
    (noFloat : hasFloatItems s = false) : s = t := by
  cases s <;> cases t <;>
    simp only [sameItems, hasFloatItems, Bool.and_eq_true, Bool.or_eq_false_iff,
      Bool.false_eq_true] at equal noFloat
  case nil.nil => rfl
  case cons.cons => rw [eq_of_same equal.1 noFloat.1, eq_of_sameItems equal.2 noFloat.2]

theorem eq_of_sameFields {s t : List (String × Value)} (equal : sameFields s t = true)
    (noFloat : hasFloatFields s = false) : s = t := by
  cases s <;> cases t <;>
    simp only [sameFields, hasFloatFields, Bool.and_eq_true, Bool.or_eq_false_iff, beq_iff_eq,
      Bool.false_eq_true] at equal noFloat
  case nil.nil => rfl
  case cons.cons first rest other others =>
    obtain ⟨⟨name, value⟩, later⟩ := equal
    rw [eq_of_sameFields later noFloat.2, Prod.ext name (eq_of_same value noFloat.1)]

end

/-! ## Numbers -/

variable {a b x : Value}

theorem asInt?_of_isNumber (number : a.isNumber = true) (noFloat : a.hasFloat = false) :
    ∃ n, a.asInt? = some n := by
  cases a <;> simp_all [isNumber, hasFloat, asInt?]

theorem asFloat?_of_asInt? {n : Int64} (found : a.asInt? = some n) :
    a.asFloat? = some (Number.Binary64.ofInt n.toInt) := by
  cases a <;> simp_all [asInt?, asFloat?]
  rw [← found, Int32.toInt_toInt64]

theorem compare_of_isNumber (one : a.isNumber = true) (other : b.isNumber = true) :
    a.compare b = a.compareNumbers b := by
  cases a <;> cases b <;> simp_all [isNumber, compare]

/-- Integers of one size are compared alike with every number. -/
theorem compare_congr (number : x.isNumber = true) (first : a.isNumber = true)
    (second : b.isNumber = true) (one : a.hasFloat = false) (other : b.hasFloat = false)
    (equal : a.compare b = .eq) : x.compare a = x.compare b := by
  obtain ⟨m, foundA⟩ := asInt?_of_isNumber first one
  obtain ⟨n, foundB⟩ := asInt?_of_isNumber second other
  rw [compare_of_isNumber first second] at equal
  rw [compare_of_isNumber number first, compare_of_isNumber number second]
  have same : m = n := by
    simpa [compareNumbers, foundA, foundB, Int64.toInt_inj] using equal
  subst same
  simp only [compareNumbers, foundA, foundB, asFloat?_of_asInt? foundA, asFloat?_of_asInt? foundB]

/-! ## Loose equality -/

theorem looseEq_array_array (s t : List Value) :
    (array s).looseEq (array t) = looseEqItems s t := by
  rw [looseEq]

theorem looseEq_of_not_isArray (apart : ¬(a.isArray = true ∧ b.isArray = true)) :
    a.looseEq b =
      if a.isNumber && b.isNumber then a.compare b == .eq else a.same b := by
  rw [looseEq]
  rintro s t rfl rfl
  exact apart ⟨rfl, rfl⟩

theorem not_isArray_of_isNumber (number : a.isNumber = true) : ¬a.isArray = true := by
  cases a <;> simp_all [isNumber, isArray]

theorem same_of_isNumber (number : a.isNumber = true) (other : x.isNumber = false) :
    x.same a = false := by
  cases x <;> cases a <;> simp_all [isNumber, same]

theorem looseEq_congr_of_isNumber (first : a.isNumber = true) (second : b.isNumber = true)
    (one : a.hasFloat = false) (other : b.hasFloat = false) (equal : a.compare b = .eq)
    (x : Value) : x.looseEq a = x.looseEq b := by
  rw [looseEq_of_not_isArray fun both => not_isArray_of_isNumber first both.2,
    looseEq_of_not_isArray fun both => not_isArray_of_isNumber second both.2]
  cases number : x.isNumber with
  | true => simp [first, second, compare_congr number first second one other equal]
  | false => simp [same_of_isNumber first number, same_of_isNumber second number]

mutual

/-- Values without doubles that are loosely equal are loosely equal to the same values. -/
theorem looseEq_congr {a b : Value} (equal : a.looseEq b = true) (one : a.hasFloat = false)
    (other : b.hasFloat = false) (x : Value) : x.looseEq a = x.looseEq b := by
  by_cases arrays : a.isArray = true ∧ b.isArray = true
  · cases a <;> cases b <;> simp only [isArray, Bool.false_eq_true, and_self, and_true,
      true_and] at arrays
    case array.array s t =>
    rw [looseEq_array_array] at equal
    cases x with
    | array items =>
      rw [looseEq_array_array, looseEq_array_array, looseEqItems_congr equal one other]
    | _ => simp [looseEq, isNumber, same]
  · rw [looseEq_of_not_isArray arrays] at equal
    split at equal
    · rename_i numbers
      rw [Bool.and_eq_true] at numbers
      exact looseEq_congr_of_isNumber numbers.1 numbers.2 one other (by simpa using equal) x
    · rw [eq_of_same equal one]

theorem looseEqItems_congr {s t : List Value} (equal : looseEqItems s t = true)
    (one : hasFloatItems s = false) (other : hasFloatItems t = false) (items : List Value) :
    looseEqItems items s = looseEqItems items t := by
  cases s with
  | nil =>
    cases t with
    | nil => rfl
    | cons b t => simp [looseEqItems] at equal
  | cons a s =>
    cases t with
    | nil => simp [looseEqItems] at equal
    | cons b t =>
      simp only [looseEqItems, hasFloatItems, Bool.and_eq_true, Bool.or_eq_false_iff]
        at equal one other
      cases items with
      | nil => rfl
      | cons x items =>
        rw [looseEqItems, looseEqItems, looseEq_congr equal.1 one.1 other.1 x,
          looseEqItems_congr equal.2 one.2 other.2 items]

end

theorem isNull_congr (equal : a.looseEq b = true) : a.isNull = b.isNull := by
  cases a <;> cases b <;> simp_all [looseEq, isNumber, isNull, same]

theorem isArray_congr (equal : a.looseEq b = true) : a.isArray = b.isArray := by
  cases a <;> cases b <;> simp_all [looseEq, isNumber, isArray, same]

end Value

/-- A field equals both or neither of two values that are loosely equal. -/
theorem fieldEquals_congr {a b : Value} (equal : a.looseEq b = true) (one : a.hasFloat = false)
    (other : b.hasFloat = false) (found : Option Value) :
    fieldEquals found a = fieldEquals found b := by
  have congr := Value.looseEq_congr equal one other
  unfold fieldEquals
  rw [Value.isNull_congr equal, Value.isArray_congr equal]
  split <;> simp only [congr]

/-! ## Literals -/

theorem Value.compareFloat_self (x : Float) : compareFloat x x = .eq := by
  have irreflexive : ¬ x < x := by
    intro less
    have unpacked : (x.toModel.unpack.compare x.toModel.unpack == some .lt) = true :=
      of_decide_eq_true less
    -- infinities and finite doubles are compared by their parts
    revert unpacked
    generalize x.toModel.unpack = unpacked
    cases unpacked with
    | notANumber => decide
    | zero sign | infinity sign => cases sign <;> decide
    | finite sign m e =>
      cases sign with
      | positive =>
        change ¬ (some ((Ord.compare e e).then (Ord.compare m m)) == some .lt) = true
        simp
      | negative =>
        change ¬ (some ((Ord.compare e e).then (Ord.compare m m)).swap == some .lt) = true
        simp
  simp [compareFloat, irreflexive]

/-- The value of a literal equals itself. -/
theorem Literal.looseEq_toValue (literal : Literal) :
    literal.toValue.looseEq literal.toValue = true := by
  cases literal with
  | int n => simp [toValue, Value.looseEq, Value.isNumber, Value.compare, Value.compareNumbers,
      Value.asInt?]
  | double x => simp [toValue, Value.looseEq, Value.isNumber, Value.compare, Value.compareNumbers,
      Value.asInt?, Value.asFloat?, Value.compareFloat_self]
  | null | bool | instant | objectId | string =>
    simp [toValue, Value.looseEq, Value.isNumber, Value.same]

/-- A field with the value of a literal equals it. -/
theorem Literal.fieldEquals_toValue (literal : Literal) :
    fieldEquals (some literal.toValue) literal.toValue = true := by
  cases literal <;> exact looseEq_toValue _

end DocQuery

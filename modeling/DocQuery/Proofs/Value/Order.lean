import DocQuery.Execute.Match
import DocQuery.Execute.Order
import DocQuery.Proofs.Value.LooseEquality

/-! # The order of values

Values are compared both ways alike, and loosely equal values come at the same place. Values that
have an order in common are in one chain, as long as no double is among them. Values of kinds without
an order in common count as equal. So a text stands between any two numbers, also between a number
and a smaller one, and the order of values is no chain across kinds.

* `Value.compare_swap` — the order the other way around.
* `Value.compare_of_looseEq` — values that are loosely equal.
* `Value.IsChain`, `Value.isChain_of_comparable` — values with an order in common.
* `Value.Bridges` — a value that stands between two others without being in order with them.
* `Value.compare_preorder_iff` — only such values keep the order from being transitive.
* `Value.compare_not_transitive` — a text between two numbers, and how they are sorted.
-/

namespace DocQuery

namespace Value

open DocQuery.Number Float.Model

/-! ## The other way around -/

theorem unpackedCompare_swap (u v : UnpackedFloat) :
    v.compare u = (u.compare v).map Ordering.swap := by
  cases u with
  | notANumber => cases v <;> rfl
  | infinity s =>
    cases v with
    | infinity t => cases s <;> cases t <;> rfl
    | _ => cases s <;> rfl
  | zero s =>
    cases v with
    | infinity t | finite t => cases t <;> rfl
    | _ => rfl
  | finite s m e =>
    cases v with
    | infinity t => cases s <;> cases t <;> rfl
    | finite t n f =>
      have order : (Ord.compare f e).then (Ord.compare n m) =
          ((Ord.compare e f).then (Ord.compare m n)).swap := by
        rw [Ordering.swap_then, ← Std.OrientedOrd.eq_swap, ← Std.OrientedOrd.eq_swap]
      cases s <;> cases t
      case positive.positive => exact congrArg some order
      case negative.negative => exact congrArg (fun order => some order.swap) order
      all_goals rfl
    | _ => cases s <;> rfl

theorem not_lt_of_lt {x y : Float} (less : x < y) : ¬ y < x := by
  intro more
  have one : (x.toModel.unpack.compare y.toModel.unpack == some .lt) = true :=
    of_decide_eq_true less
  have other : (y.toModel.unpack.compare x.toModel.unpack == some .lt) = true :=
    of_decide_eq_true more
  rw [beq_iff_eq] at one other
  rw [unpackedCompare_swap, one] at other
  cases other

theorem compareFloat_swap (x y : Float) : compareFloat y x = (compareFloat x y).swap := by
  unfold compareFloat
  by_cases less : x < y
  · simp [less, not_lt_of_lt less]
  · by_cases more : y < x <;> simp [less, more]

theorem compareNumbers_swap (a b : Value) : b.compareNumbers a = (a.compareNumbers b).swap := by
  unfold compareNumbers
  cases a.asInt? <;> cases b.asInt?
  case some.some m n => exact Std.OrientedOrd.eq_swap
  all_goals
    cases a.asFloat? <;> cases b.asFloat?
    case some.some x y => exact compareFloat_swap x y
    all_goals rfl

theorem compareBytes_eq (s t : List UInt8) : compareBytes s t = Ord.compare s t := by
  fun_induction compareBytes s t with
  | case1 | case2 | case3 => rfl
  | case4 b s c t ih =>
    rw [ih]
    exact List.compareLex_cons_cons.symm

instance : Std.TransCmp Time.Date.compare :=
  inferInstanceAs (Std.TransCmp (compareLex (compareOn Time.Date.year)
    (compareLex (compareOn Time.Date.month) (compareOn Time.Date.day))))

instance : Std.TransCmp Time.Instant.compare :=
  have : Std.TransCmp fun a b : Time.Instant => a.date.compare b.date :=
    { eq_swap := Std.OrientedCmp.eq_swap, isLE_trans := Std.TransCmp.isLE_trans }
  inferInstanceAs (Std.TransCmp (compareLex (fun a b => a.date.compare b.date)
    (compareLex (compareOn Time.Instant.second) (compareOn Time.Instant.nano))))

/-- Two values are compared the other way around with the opposite result. -/
theorem compare_swap (a b : Value) : b.compare a = (a.compare b).swap := by
  by_cases numbers : a.isNumber = true ∧ b.isNumber = true
  · rw [compare_of_isNumber numbers.1 numbers.2, compare_of_isNumber numbers.2 numbers.1]
    exact compareNumbers_swap a b
  · cases a <;> cases b
    case bool.bool | string.string | objectId.objectId => exact Std.OrientedOrd.eq_swap
    case binary.binary s t =>
      rw [compare, compare, compareBytes_eq, compareBytes_eq]
      exact Std.OrientedOrd.eq_swap
    case instant.instant s t =>
      change t.compare s = (s.compare t).swap
      exact Std.OrientedCmp.eq_swap
    case int32.int32 | int32.int64 | int32.float | int64.int32 | int64.int64 | int64.float |
        float.int32 | float.int64 | float.float =>
      exact absurd ⟨rfl, rfl⟩ numbers
    all_goals rfl

theorem compare_self (a : Value) : a.compare a = .eq := by
  have swapped := compare_swap a a
  cases order : a.compare a <;> simp [order] at swapped ⊢

/-- Values that are loosely equal come at the same place. -/
theorem compare_of_looseEq {a b : Value} (equal : a.looseEq b = true) : a.compare b = .eq := by
  by_cases arrays : a.isArray = true ∧ b.isArray = true
  · cases a <;> cases b <;> simp_all [isArray, compare, isNumber]
  rw [looseEq_of_not_isArray arrays] at equal
  split at equal
  · simpa using equal
  · rename_i notNumbers
    cases a <;> cases b <;> simp only [same, Bool.false_eq_true, beq_iff_eq] at equal
    case null.null | array.array | object.object => rfl
    case float.float => exact absurd rfl notNumbers
    all_goals
      subst equal
      exact compare_self _

/-! ## Values with an order in common -/

/-- Whether the first value is not behind the second one. -/
def le (a b : Value) : Bool := a.compare b != .gt

theorem le_eq_isLE (a b : Value) : a.le b = (a.compare b).isLE := by
  rw [le]
  cases a.compare b <;> rfl

variable {u v w : Value}

theorem le_of_asInt? {m n : Int64} (one : u.asInt? = some m) (other : v.asInt? = some n) :
    u.le v = (Ord.compare m.toInt n.toInt).isLE := by
  have numbers : u.isNumber = true ∧ v.isNumber = true := by
    cases u <;> cases v <;> simp_all [asInt?, isNumber]
  rw [le_eq_isLE, compare_of_isNumber numbers.1 numbers.2, compareNumbers, one, other]

theorem le_trans_of_kind (uv : u.kind = v.kind) (vw : v.kind = w.kind)
    (notNumber : u.isNumber = false) (first : u.le v = true) (second : v.le w = true) :
    u.le w = true := by
  rw [le_eq_isLE] at first second ⊢
  cases u <;> cases v <;> cases uv <;> cases w <;> cases vw <;> cases notNumber
  case null | array | object => rfl
  case binary =>
    rw [compare, compareBytes_eq] at first second ⊢
    exact Std.TransOrd.isLE_trans first second
  case instant =>
    rename_i r s t
    change (r.compare s).isLE = true at first
    change (s.compare t).isLE = true at second
    change (r.compare t).isLE = true
    exact Std.TransCmp.isLE_trans first second
  all_goals exact Std.TransOrd.isLE_trans first second

theorem isNumber_of_comparable (together : comparable u v = true) : u.isNumber = v.isNumber := by
  cases u <;> cases v <;> simp_all [comparable, isNumber, kind]

/-- Among values with an order in common, doubles apart, the order is a chain. -/
theorem le_trans_of_comparable (uv : comparable u v = true) (vw : comparable v w = true)
    (noFloatU : u.hasFloat = false) (noFloatV : v.hasFloat = false) (noFloatW : w.hasFloat = false)
    (first : u.le v = true) (second : v.le w = true) : u.le w = true := by
  cases number : u.isNumber with
  | true =>
    have numberV := (isNumber_of_comparable uv).symm.trans number
    have numberW := (isNumber_of_comparable vw).symm.trans numberV
    obtain ⟨l, foundU⟩ := asInt?_of_isNumber number noFloatU
    obtain ⟨m, foundV⟩ := asInt?_of_isNumber numberV noFloatV
    obtain ⟨n, foundW⟩ := asInt?_of_isNumber numberW noFloatW
    rw [le_of_asInt? foundU foundV] at first
    rw [le_of_asInt? foundV foundW] at second
    rw [le_of_asInt? foundU foundW]
    exact Std.TransOrd.isLE_trans first second
  | false =>
    have kinds {a b : Value} (together : comparable a b = true) (notNumber : a.isNumber = false) :
        a.kind = b.kind := by
      simpa [comparable, notNumber] using together
    exact le_trans_of_kind (kinds uv number)
      (kinds vw ((isNumber_of_comparable uv).symm.trans number)) number first second

/-- Whether the order of values is a chain on some values: it is not where doubles that are no
numbers or values without an order in common are among them. -/
def IsChain (values : List Value) : Prop :=
  ∀ u ∈ values, ∀ v ∈ values, ∀ w ∈ values, u.le v = true → v.le w = true → u.le w = true

theorem le_refl (a : Value) : a.le a = true := by rw [le, compare_self]; rfl

theorem le_total (a b : Value) : a.le b = true ∨ b.le a = true := by
  rw [le, le, compare_swap a b]
  cases a.compare b <;> simp

theorem null_le (a : Value) : null.le a = true := by cases a <;> rfl

theorem eq_null_of_le {a : Value} (first : a.le null = true) : a = null := by
  cases a <;> simp_all [le, compare]

/-- Null and values with an order in common, without doubles, are a chain. -/
theorem isChain_of_comparable {values : List Value}
    (noFloats : ∀ v ∈ values, v.hasFloat = false)
    (together : ∀ v ∈ values, ∀ w ∈ values,
      v.isNull = true ∨ w.isNull = true ∨ comparable v w = true) :
    IsChain values := by
  have eq_null {v : Value} (isNull : v.isNull = true) : v = null := by
    cases v <;> simp_all [Value.isNull]
  intro u inU v inV w inW first second
  rcases together u inU v inV with nullU | nullV | uv
  · rw [eq_null nullU]
    exact null_le w
  · rw [eq_null nullV] at first
    rw [eq_null_of_le first]
    exact null_le w
  rcases together v inV w inW with nullV | nullW | vw
  · rw [eq_null nullV] at first
    rw [eq_null_of_le first]
    exact null_le w
  · rw [eq_null nullW] at second ⊢
    rwa [eq_null_of_le second] at first
  · exact le_trans_of_comparable uv vw (noFloats u inU) (noFloats v inV) (noFloats w inW)
      first second

end Value

/-! ## Values without an order in common -/

variable {a b c : Value}

theorem comparable_symm (together : comparable a b = true) : comparable b a = true := by
  simp only [comparable, Bool.or_eq_true, Bool.and_eq_true, beq_iff_eq] at together ⊢
  exact together.imp And.symm Eq.symm

theorem comparable_trans (ab : comparable a b = true) (bc : comparable b c = true) :
    comparable a c = true := by
  -- what is in order with a number is a number
  have numbers := (Value.isNumber_of_comparable ab).trans (Value.isNumber_of_comparable bc)
  cases number : a.isNumber with
  | true => simp [comparable, number, ← numbers]
  | false =>
    have other := (Value.isNumber_of_comparable ab).symm.trans number
    simp only [comparable, number, other, Bool.false_and, Bool.false_or, beq_iff_eq] at ab bc ⊢
    exact ab.trans bc

namespace Value

/-- Values without an order in common count as equal. -/
theorem compare_of_not_comparable (apart : comparable a b = false) (notNull : a ≠ .null)
    (notNullToo : b ≠ .null) : a.compare b = .eq := by
  cases a <;> cases b <;> simp_all [comparable, kind, isNumber, compare]

/-- A value between two others with which it has no order in common. Null is before all values, so
it stands between none. -/
structure Bridges (a b c : Value) : Prop where
  notNull : b ≠ .null
  before : comparable a b = false
  behind : comparable b c = false

theorem compare_bridged (bridges : Bridges a b c) (first : a ≠ .null) (last : c ≠ .null) :
    a.compare b = .eq ∧ b.compare c = .eq :=
  ⟨compare_of_not_comparable bridges.before first bridges.notNull,
    compare_of_not_comparable bridges.behind bridges.notNull last⟩

/-- Where two values are in order with a third one and yet not with each other, the third one
bridges them, and neither of them is null. -/
theorem bridges_of_not_le (noFloatA : a.hasFloat = false) (noFloatB : b.hasFloat = false)
    (noFloatC : c.hasFloat = false) (ab : a.le b = true) (bc : b.le c = true)
    (notLe : a.le c = false) : c ≠ .null ∧ Bridges a b c := by
  have first : a ≠ .null := by
    rintro rfl
    simp [null_le] at notLe
  have middle : b ≠ .null := by
    rintro rfl
    exact first (eq_null_of_le ab)
  have last : c ≠ .null := by
    rintro rfl
    exact middle (eq_null_of_le bc)
  have together : comparable a c = true := by
    cases apart : comparable a c with
    | true => rfl
    | false => simp [le, compare_of_not_comparable apart first last] at notLe
  -- one order in common would give the other, and all three were in a chain
  have noChain (ab' : comparable a b = true) (bc' : comparable b c = true) : False := by
    rw [le_trans_of_comparable ab' bc' noFloatA noFloatB noFloatC ab bc] at notLe
    cases notLe
  refine ⟨last, middle, Bool.eq_false_iff.mpr fun ab' => ?_, Bool.eq_false_iff.mpr fun bc' => ?_⟩
  · exact noChain ab' (comparable_trans (comparable_symm ab') together)
  · exact noChain (comparable_trans together (comparable_symm bc')) bc'

/-- Of values without doubles, two are compared the other way around with the opposite result, each
equals itself, and a value that is not behind a second one, which is not behind a third one, is not
behind the third one, except where it is greater than that and the second one bridges them. -/
theorem compare_preorder_iff (noFloatA : a.hasFloat = false) (noFloatB : b.hasFloat = false)
    (noFloatC : c.hasFloat = false) :
    b.compare a = (a.compare b).swap ∧ a.compare a = .eq ∧
      ((a.compare b ≠ .gt → b.compare c ≠ .gt → a.compare c ≠ .gt) ↔
        ¬ (a.compare c = .gt ∧ c ≠ .null ∧ Bridges a b c)) := by
  refine ⟨compare_swap a b, compare_self a, fun transitive => ?_, fun apart ab bc behind => ?_⟩
  · rintro ⟨behind, last, bridges⟩
    have first : a ≠ .null := by
      rintro rfl
      cases c <;> cases behind
    obtain ⟨one, other⟩ := compare_bridged bridges first last
    exact transitive (by simp [one]) (by simp [other]) behind
  · have notLe : a.le c = false := by simp [le, behind]
    exact apart ⟨behind, bridges_of_not_le noFloatA noFloatB noFloatC (by simpa [le] using ab)
      (by simpa [le] using bc) notLe⟩

/-- Integers of both widths and a missing bridge: an instance in which the order is transitive. -/
theorem compare_preorder_of_integers :
    (int32 (-1)).hasFloat = false ∧ (int64 2).hasFloat = false ∧ (int32 3).hasFloat = false ∧
      ((int32 (-1)).compare (int64 2) ≠ .gt → (int64 2).compare (int32 3) ≠ .gt →
        (int32 (-1)).compare (int32 3) ≠ .gt) := by
  refine ⟨rfl, rfl, rfl, ?_⟩
  obtain ⟨-, -, transitive_iff⟩ :=
    compare_preorder_iff (a := int32 (-1)) (b := int64 2) (c := int32 3) rfl rfl rfl
  refine transitive_iff.mpr ?_
  rintro ⟨-, -, bridges⟩
  exact absurd bridges.before (by decide)

/-- Whether a document with the first value stays in front of one with the second. -/
def inOrder (a b : Value) : Bool :=
  SortKeys.compare [⟨"v", none, false⟩] ⟨[("v", a)]⟩ ⟨[("v", b)]⟩ != .gt

/-- A text equals two numbers that are not equal, and sorting four documents leaves one in front of
a smaller one. -/
theorem compare_not_transitive :
    (¬ ∀ a b c : Value, a.hasFloat = false → b.hasFloat = false → c.hasFloat = false →
      b.compare a = (a.compare b).swap ∧ a.compare a = .eq ∧
        (a.compare b ≠ .gt → b.compare c ≠ .gt → a.compare c ≠ .gt)) ∧
    sortDocuments [⟨"v", none, false⟩] [⟨[("v", .int64 1)]⟩, ⟨[("v", .string "x")]⟩,
      ⟨[("v", .string "y")]⟩, ⟨[("v", .int64 0)]⟩] =
        [⟨[("v", .int64 1)]⟩, ⟨[("v", .string "x")]⟩, ⟨[("v", .string "y")]⟩,
          ⟨[("v", .int64 0)]⟩] := by
  constructor
  · intro preorder
    have transitive := (preorder (.int64 1) (.string "x") (.int64 0) rfl rfl rfl).2.2
    exact transitive (by decide) (by decide) (by decide)
  · have numberText : inOrder (.int64 1) (.string "x") = true := by decide +kernel
    have textNumber : inOrder (.string "y") (.int64 0) = true := by decide +kernel
    have across : inOrder (.int64 1) (.string "y") = true := by decide +kernel
    have texts : inOrder (.string "x") (.string "y") = true := by decide +kernel
    simp only [inOrder] at numberText textNumber across texts
    simp [sortDocuments, List.mergeSort, List.MergeSort.Internal.splitInTwo, numberText, textNumber,
      across, texts]

end Value

end DocQuery

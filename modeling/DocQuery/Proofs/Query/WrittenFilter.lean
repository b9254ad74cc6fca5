import DocQuery.Execute.Match
import DocQuery.Proofs.Condition.Blank
import DocQuery.Proofs.Value.WrittenAlike
import DocQuery.Query.Plan

/-! # Written filters

A filter document shows the shape of the filter and its operands as JSON. Nothing else is written
like it, unless a field that is equal to an object is taken for one with operators, or a field that
is named like a connective for one. In the filter of a SELECT neither happens: no operand of a
condition is an object, and no field begins with a dollar sign. Where the operands are plain, the
document therefore decides which documents pass.

* `Filter.alike` — filters of one shape with operands that are written alike.
* `Filter.isReadable` — filters whose shape can be seen in the document.
* `Filter.alike_toJson` — the documents of such filters are alike exactly if the filters are.
* `Filter.isPlain` — filters with operands that only loosely equal values are written like.
* `Filter.test_congr` — filters that are alike, with plain operands, have the same test.
* `Condition.isReadable_compile` — the filter of a clause is readable.
* `SelectPlan.isReadable_selectFilter` — so is that of a SELECT, an EXISTS clause included.
-/

namespace DocQuery

namespace Filter

open DocQuery.Json

mutual

/-- Whether two filters are of one shape, and differ at most in operands that are written alike. -/
def alike : Filter → Filter → Bool
  | .empty, .empty => true
  | .compare op field v, .compare op' field' w =>
    op == op' && field == field' && v.writtenAlike w
  | .range field low high, .range field' low' high' =>
    field == field' && low.writtenAlike low' && high.writtenAlike high'
  | .isIn field vs, .isIn field' ws | .notIn field vs, .notIn field' ws =>
    field == field' && (Value.array vs).writtenAlike (.array ws)
  | .present field expected, .present field' expected' => field == field' && expected == expected'
  | .pattern field source options, .pattern field' source' options' =>
    field == field' && source == source' && options == options'
  | .all fs, .all gs | .any fs, .any gs => alikeList fs gs
  | _, _ => false

def alikeList : List Filter → List Filter → Bool
  | [], [] => true
  | f :: fs, g :: gs => alike f g && alikeList fs gs
  | _, _ => false

end

mutual

/-- Whether equality is only with values that are not objects, and not of fields that are named like
connectives. -/
def isReadable : Filter → Bool
  | .compare .eq field value => !value.isObject && field ∉ ["$and", "$or"]
  | .all filters | .any filters => isReadableList filters
  | _ => true

def isReadableList : List Filter → Bool
  | [] => true
  | filter :: rest => isReadable filter && isReadableList rest

end

mutual

/-- Whether only loosely equal values are written like the operands. -/
def isPlain : Filter → Bool
  | .compare _ _ value => value.isPlain
  | .range _ low high => low.isPlain && high.isPlain
  | .isIn _ values | .notIn _ values => Value.isPlainItems values
  | .all filters | .any filters => isPlainList filters
  | _ => true

def isPlainList : List Filter → Bool
  | [] => true
  | filter :: rest => isPlain filter && isPlainList rest

end

variable {f g : Filter} {v w : Value}

theorem isReadable_compare_iff {op : Comparison} {field : String} :
    (compare op field v).isReadable = true ↔
      (op = .eq → v.isObject = false ∧ field ∉ ["$and", "$or"]) := by
  cases op <;> simp [isReadable]

/-! ## Operators -/

theorem alike_object_cons (m n : String) (a b : Json) (as bs : List (String × Json)) :
    (Json.object ((m, a) :: as)).alike (.object ((n, b) :: bs)) =
      (m == n && a.alike b && alikeMembers as bs) := by
  rw [Json.alike, alikeMembers]

theorem alike_object_nil (members : List (String × Json)) :
    (Json.object members).alike (.object []) = members.isEmpty ∧
      (Json.object []).alike (.object members) = members.isEmpty := by
  cases members <;> exact ⟨rfl, rfl⟩

theorem alike_object_array (members : List (String × Json)) (items : List Json) :
    (Json.object members).alike (.array items) = false ∧
      (Json.array items).alike (.object members) = false := ⟨rfl, rfl⟩

/-- Objects with different first names are written apart. -/
theorem alike_object_of_ne {m n : String} (different : m ≠ n) (a b : Json)
    (as bs : List (String × Json)) :
    (Json.object ((m, a) :: as)).alike (.object ((n, b) :: bs)) = false := by
  rw [alike_object_cons, beq_eq_false_iff_ne.mpr different]
  rfl

/-- What is equal to a field is not taken for an operator with its operand. -/
theorem alike_operand (notObject : v.isObject = false) {name : String}
    (operator : name ∉ ["$oid", "$date", "$binary"]) (operand : Json)
    (others : List (String × Json)) :
    v.toJson.alike (.object ((name, operand) :: others)) = false ∧
      (Json.object ((name, operand) :: others)).alike v.toJson = false := by
  simp only [List.mem_cons, List.not_mem_nil, or_false, not_or] at operator
  obtain ⟨oid, date, binary⟩ := operator
  cases v with
  | object => cases notObject
  | float x =>
    rw [Value.toJson]
    split <;> exact ⟨rfl, rfl⟩
  | binary | objectId | instant =>
    exact ⟨alike_object_of_ne (Ne.symm ‹_›) _ _ _ _, alike_object_of_ne ‹_› _ _ _ _⟩
  | _ => exact ⟨rfl, rfl⟩

theorem alike_comparison {op op' : Comparison} {field field' : String}
    (one : (compare op field v).isReadable = true)
    (other : (compare op' field' w).isReadable = true) :
    (comparisonJson op v).alike (comparisonJson op' w) = (op == op' && v.writtenAlike w) := by
  rw [isReadable_compare_iff] at one other
  cases op <;> cases op' <;> simp only [comparisonJson, operator?, single]
  case eq.eq => rfl
  case eq.ne | eq.gt | eq.gte | eq.lt | eq.lte =>
    exact (alike_operand (one rfl).1 (by decide) _ _).1
  case ne.eq | gt.eq | gte.eq | lt.eq | lte.eq =>
    exact (alike_operand (other rfl).1 (by decide) _ _).2
  case ne.ne | gt.gt | gte.gte | lt.lt | lte.lte =>
    simp [alike_object_cons, alikeMembers, Value.writtenAlike]
  all_goals exact alike_object_of_ne (by decide) _ _ _ _

/-- A comparison is not taken for another test. -/
theorem alike_comparison_operator {op : Comparison} {field : String}
    (readable : (compare op field v).isReadable = true) {name : String}
    (apart : name ∉ ["$oid", "$date", "$binary", "$ne", "$gt", "$gte", "$lt", "$lte"])
    (operand : Json) (others : List (String × Json)) :
    (comparisonJson op v).alike (.object ((name, operand) :: others)) = false ∧
      (Json.object ((name, operand) :: others)).alike (comparisonJson op v) = false := by
  rw [isReadable_compare_iff] at readable
  simp only [List.mem_cons, List.not_mem_nil, or_false, not_or] at apart
  cases op
  case eq => exact alike_operand (readable rfl).1 (by simp [apart]) operand others
  all_goals exact ⟨alike_object_of_ne (Ne.symm (by simp [apart])) _ _ _ _,
    alike_object_of_ne (by simp [apart]) _ _ _ _⟩

/-- One bound is not taken for two. -/
theorem alike_comparison_range {op : Comparison} {field : String}
    (readable : (compare op field v).isReadable = true) (low high : Json) :
    (comparisonJson op v).alike (.object [("$gte", low), ("$lte", high)]) = false ∧
      (Json.object [("$gte", low), ("$lte", high)]).alike (comparisonJson op v) = false := by
  rw [isReadable_compare_iff] at readable
  cases op
  case eq => exact alike_operand (readable rfl).1 (by decide) _ _
  all_goals simp [comparisonJson, operator?, single, alike_object_cons, alikeMembers]

/-- A comparison is not taken for a connective. -/
theorem alike_comparison_connective {op : Comparison} {field : String}
    (readable : (compare op field v).isReadable = true) {name : String}
    (connective : name ∈ ["$and", "$or"]) (items : List Json) :
    (field == name && (comparisonJson op v).alike (.array items)) = false ∧
      (name == field && (Json.array items).alike (comparisonJson op v)) = false := by
  rw [isReadable_compare_iff] at readable
  cases op
  case eq =>
    have apart : field ≠ name := fun same => (readable rfl).2 (same ▸ connective)
    exact ⟨by simp [apart], by simp [apart.symm]⟩
  all_goals simp [comparisonJson, operator?, single, alike_object_array]

theorem alike_pattern (source source' : String) (options options' : Option String) :
    (patternJson source options).alike (patternJson source' options') =
      (source == source' && options == options') := by
  cases options <;> cases options' <;>
    simp [patternJson, single, alike_object_cons, alikeMembers, Json.alike, Bool.and_comm]

/-! ## Filters -/

mutual

/-- The documents of readable filters are alike exactly if the filters are. -/
theorem alike_toJson {f g : Filter} (one : f.isReadable = true) (other : g.isReadable = true) :
    f.toJson.alike g.toJson = f.alike g := by
  cases f <;> cases g <;> simp only [toJson, alike, single, alike_object_cons, alike_object_nil,
    alike_object_array, alikeMembers, Bool.and_true, Bool.and_false, Bool.false_and,
    String.reduceBEq, beq_self_eq_true, Bool.true_and, List.isEmpty_cons, List.isEmpty_nil]
  case compare.compare =>
    rw [alike_comparison one other, ← Bool.and_assoc, Bool.and_comm (_ == _) (_ == _)]
  case compare.isIn | compare.notIn | compare.present =>
    rw [(alike_comparison_operator one (by decide) _ _).1, Bool.and_false]
  case isIn.compare | notIn.compare | present.compare =>
    rw [(alike_comparison_operator other (by decide) _ _).2, Bool.and_false]
  case compare.range => rw [(alike_comparison_range one _ _).1, Bool.and_false]
  case range.compare => rw [(alike_comparison_range other _ _).2, Bool.and_false]
  case compare.all | compare.any => exact (alike_comparison_connective one (by decide) _).1
  case all.compare | any.compare => exact (alike_comparison_connective other (by decide) _).2
  case compare.pattern options =>
    cases options <;> simp only [patternJson, single] <;>
      rw [(alike_comparison_operator one (by decide) _ _).1, Bool.and_false]
  case pattern.compare options _ _ _ =>
    cases options <;> simp only [patternJson, single] <;>
      rw [(alike_comparison_operator other (by decide) _ _).2, Bool.and_false]
  case range.range => rw [Value.writtenAlike, Value.writtenAlike, Bool.and_assoc]
  case isIn.isIn | notIn.notIn => rw [Value.writtenAlike, Value.toJson, Value.toJson]
  case present.present => rw [Json.alike]
  case pattern.pattern => rw [alike_pattern, ← Bool.and_assoc]
  case all.all | any.any =>
    rw [Json.alike]
    exact alikeList_toJson one other
  -- a pattern has an operator of its own
  case pattern.range options _ _ _ | pattern.isIn options _ _ | pattern.notIn options _ _
      | pattern.present options _ _ | pattern.all options _ | pattern.any options _ =>
    cases options <;> simp [patternJson, single, alike_object_cons, alike_object_array]
  case range.pattern options | isIn.pattern options | notIn.pattern options
      | present.pattern options | all.pattern options | any.pattern options =>
    cases options <;> simp [patternJson, single, alike_object_cons, alike_object_array]

theorem alikeList_toJson {fs gs : List Filter} (one : isReadableList fs = true)
    (other : isReadableList gs = true) :
    alikeItems (toJsonList fs) (toJsonList gs) = alikeList fs gs := by
  cases fs <;> cases gs <;> simp only [toJsonList, alikeItems, alikeList]
  case cons.cons f fs g gs =>
    rw [isReadableList, Bool.and_eq_true] at one other
    rw [alike_toJson one.1 other.1, alikeList_toJson one.2 other.2]

end

end Filter

/-! ## Tests -/

namespace Value

mutual

theorem hasFloat_of_isExact {v : Value} (exact_ : v.isExact = true) : v.hasFloat = false := by
  cases v <;> simp only [isExact, Bool.false_eq_true, Bool.and_eq_true] at exact_
  case array items => exact hasFloatItems_of_isExactItems exact_
  case object fields => exact hasFloatFields_of_isExactFields exact_.2
  all_goals rfl

theorem hasFloatItems_of_isExactItems {items : List Value} (exact_ : isExactItems items = true) :
    hasFloatItems items = false := by
  cases items with
  | nil => rfl
  | cons item rest =>
    rw [isExactItems, Bool.and_eq_true] at exact_
    rw [hasFloatItems, hasFloat_of_isExact exact_.1, hasFloatItems_of_isExactItems exact_.2]
    rfl

theorem hasFloatFields_of_isExactFields {fields : List (String × Value)}
    (exact_ : isExactFields fields = true) : hasFloatFields fields = false := by
  match fields, exact_ with
  | [], _ => rfl
  | (_, value) :: rest, exact_ =>
    rw [isExactFields, Bool.and_eq_true] at exact_
    rw [hasFloatFields, hasFloat_of_isExact exact_.1, hasFloatFields_of_isExactFields exact_.2]
    rfl

end

mutual

theorem hasFloat_of_isPlain {v : Value} (plain : v.isPlain = true) : v.hasFloat = false := by
  cases v with
  | int32 => rfl
  | array items => exact hasFloatItems_of_isPlainItems plain
  | _ => exact hasFloat_of_isExact plain

theorem hasFloatItems_of_isPlainItems {items : List Value} (plain : isPlainItems items = true) :
    hasFloatItems items = false := by
  cases items with
  | nil => rfl
  | cons item rest =>
    rw [isPlainItems, Bool.and_eq_true] at plain
    rw [hasFloatItems, hasFloat_of_isPlain plain.1, hasFloatItems_of_isPlainItems plain.2]
    rfl

end

end Value

section operands

variable {v w : Value} {vs ws : List Value}

theorem Value.comparable_of_isNumber {x : Value} (number : v.isNumber = true) :
    comparable x v = x.isNumber := by
  cases x <;> cases v <;> simp_all [comparable, isNumber, kind]

/-- Loosely equal values have an order with the same values, and the same one. -/
theorem Value.comparable_congr (same : v.looseEq w = true) (one : v.hasFloat = false)
    (other : w.hasFloat = false) (x : Value) :
    comparable x v = comparable x w ∧ (comparable x v = true → x.compare v = x.compare w) := by
  by_cases arrays : v.isArray = true ∧ w.isArray = true
  · cases v <;> cases w <;> simp only [isArray, Bool.false_eq_true, and_self, and_true,
      true_and] at arrays
    -- arrays are only compared with arrays, which have one place
    cases x <;> simp [comparable, isNumber, kind, Value.compare]
  · rw [looseEq_of_not_isArray arrays] at same
    split at same
    · rename_i numbers
      rw [Bool.and_eq_true] at numbers
      rw [comparable_of_isNumber numbers.1, comparable_of_isNumber numbers.2]
      exact ⟨rfl, fun number =>
        compare_congr number numbers.1 numbers.2 one other (by simpa using same)⟩
    · rw [eq_of_same same one]
      exact ⟨rfl, fun _ => rfl⟩

theorem fieldCompares_congr (same : v.writtenAlike w = true) (one : v.isPlain = true)
    (other : w.isPlain = true) (found : Option Value) (accept : Ordering → Bool) :
    fieldCompares found v accept = fieldCompares found w accept := by
  rw [Value.writtenAlike_eq_looseEq one other] at same
  cases found with
  | none => rfl
  | some x =>
    obtain ⟨comparables, order⟩ := Value.comparable_congr same (Value.hasFloat_of_isPlain one)
      (Value.hasFloat_of_isPlain other) x
    rw [fieldCompares, fieldCompares, ← comparables]
    cases together : comparable x v with
    | false => simp
    | true => rw [order together]

theorem Comparison.holds_congr (same : v.writtenAlike w = true) (one : v.isPlain = true)
    (other : w.isPlain = true) (op : Comparison) (found : Option Value) :
    op.holds found v = op.holds found w := by
  have equal : fieldEquals found v = fieldEquals found w :=
    fieldEquals_congr (Value.writtenAlike_eq_looseEq one other ▸ same)
      (Value.hasFloat_of_isPlain one) (Value.hasFloat_of_isPlain other) found
  cases op <;> simp only [holds, equal, fieldCompares_congr same one other]

theorem any_fieldEquals_congr (same : (Value.array vs).writtenAlike (.array ws) = true)
    (one : Value.isPlainItems vs = true) (other : Value.isPlainItems ws = true)
    (found : Option Value) : vs.any (fieldEquals found) = ws.any (fieldEquals found) := by
  rw [Value.writtenAlike_eq_looseEq (a := .array vs) (b := .array ws) one other,
    Value.looseEq_array_array] at same
  induction vs generalizing ws with
  | nil =>
    cases ws with
    | nil => rfl
    | cons w ws => cases same
  | cons v vs ih =>
    cases ws with
    | nil => cases same
    | cons w ws =>
      rw [Value.isPlainItems, Bool.and_eq_true] at one other
      rw [Value.looseEqItems, Bool.and_eq_true] at same
      rw [List.any_cons, List.any_cons, ih same.2 one.2 other.2, fieldEquals_congr same.1
        (Value.hasFloat_of_isPlain one.1) (Value.hasFloat_of_isPlain other.1)]

end operands

namespace Filter

variable {f g : Filter}

mutual

/-- Filters that are alike, with plain operands, have the same test. -/
theorem test_congr {f g : Filter} (same : f.alike g = true) (one : f.isPlain = true)
    (other : g.isPlain = true) (doc : Document) : f.test doc = g.test doc := by
  cases f <;> cases g <;> simp only [alike, isPlain, Bool.false_eq_true, Bool.and_eq_true,
    beq_iff_eq] at same one other
  case empty.empty => rfl
  case compare.compare =>
    obtain ⟨⟨rfl, rfl⟩, operands⟩ := same
    rw [test, test, Comparison.holds_congr operands one other]
  case range.range =>
    obtain ⟨⟨rfl, lows⟩, highs⟩ := same
    rw [test, test]
    simp only [fieldCompares_congr lows one.1 other.1, fieldCompares_congr highs one.2 other.2]
  case isIn.isIn =>
    obtain ⟨rfl, operands⟩ := same
    rw [test, test, any_fieldEquals_congr operands one other]
  case notIn.notIn =>
    obtain ⟨rfl, operands⟩ := same
    rw [test, test, any_fieldEquals_congr operands one other]
  case present.present =>
    obtain ⟨rfl, rfl⟩ := same
    rfl
  case pattern.pattern =>
    obtain ⟨⟨rfl, rfl⟩, rfl⟩ := same
    rfl
  case all.all =>
    rw [test, test]
    exact (tests_congr same one other doc).1
  case any.any =>
    rw [test, test]
    exact (tests_congr same one other doc).2

theorem tests_congr {fs gs : List Filter} (same : alikeList fs gs = true)
    (one : isPlainList fs = true) (other : isPlainList gs = true) (doc : Document) :
    testAll doc fs = testAll doc gs ∧ testAny doc fs = testAny doc gs := by
  cases fs <;> cases gs <;> simp only [alikeList, isPlainList, Bool.false_eq_true,
    Bool.and_eq_true] at same one other
  case nil.nil => exact ⟨rfl, rfl⟩
  case cons.cons f fs g gs =>
    have first := test_congr same.1 one.1 other.1 doc
    have others := tests_congr same.2 one.2 other.2 doc
    exact ⟨by rw [testAll, testAll, first, others.1], by rw [testAny, testAny, first, others.2]⟩

end

/-- Filters with the same test select the same documents. -/
theorem select_congr (same : ∀ doc, f.test doc = g.test doc) (docs : List Document) :
    f.select docs = g.select docs := by
  induction docs with
  | nil => rfl
  | cons doc rest ih => rw [select, select, same, ih]

end Filter

namespace Condition

open DocQuery.Text

variable {scope : Scope} {s f rest : List Char} {filter : Filter} {value : Value}

/-! ## Operands -/

theorem isObject_bareValue (s : List Char) : (bareValue s).isObject = false := by
  unfold bareValue
  cases Literal.parse (String.ofList s) <;> rfl

theorem isObject_quotedValue (content : List Char) (idAllowed : Bool) :
    (quotedValue content idAllowed).isObject = false := by
  unfold quotedValue
  simp only
  split
  · rfl
  · split <;> rfl

/-- Lists, texts and literals are no objects. -/
theorem isObject_of_operand {idAllowed : Bool} (read : operand idAllowed s = .ok value) :
    value.isObject = false := by
  rw [operand, operandValue] at read
  split at read
  · cases read
    exact isObject_bareValue _
  · rename_i c rest _
    split at read
    · split at read
      · cases items : (listItems rest.dropLast).mapM (operandValue s.length false) <;>
          rw [items] at read <;> cases read
        rfl
      · cases read
    · split at read
      · split at read <;> cases read
        exact isObject_quotedValue _ _
      · cases read
        exact isObject_bareValue _

/-! ## Fields -/

/-- A path begins with a character of words. -/
theorem exists_cons_of_path? (read : path? s = some (f, rest)) :
    ∃ c tail, f = c :: tail ∧ isWordChar c = true := by
  unfold path? at read
  split at read
  · cases read
  · split at read <;> cases read
    exact ⟨_, _, rfl, ‹_›⟩

/-- A field, of documents or of groups, is not named like a connective. -/
theorem resolve_notMem (scope : Scope) (read : path? s = some (f, rest)) :
    scope.resolve (String.ofList f) ∉ ["$and", "$or"] := by
  obtain ⟨c, tail, rfl, word⟩ := exists_cons_of_path? read
  have first : ∃ d, (scope.resolve (String.ofList (c :: tail))).toList.head? = some d ∧ d ≠ '$' := by
    have plain : c ≠ '$' := by
      rintro rfl
      cases word
    cases scope with
    | rows => exact ⟨c, by simp [Scope.resolve], plain⟩
    | groups keys =>
      simp only [Scope.resolve]
      split
      · exact ⟨'_', by simp, by decide⟩
      · exact ⟨c, by simp, plain⟩
  obtain ⟨d, begins, plain⟩ := first
  intro member
  simp only [List.mem_cons, List.not_mem_nil, or_false] at member
  rcases member with named | named <;> rw [named] at begins <;> cases begins <;> exact plain rfl

/-! ## Conditions -/

/-- The filter of one condition is a test that is readable. -/
theorem isReadable_leafFilter (compiled : leafFilter scope s = .ok filter) :
    filter.isReadable = true := by
  cases isLeaf_of_leafFilter compiled with
  | range | isIn | notIn | present | pattern => rfl
  | compare noPattern read valueRead =>
    simp only [comparison?, bind, Option.bind_eq_some_iff] at read
    obtain ⟨⟨f, behind⟩, path, _, _, _, _, same⟩ := read
    cases same
    refine Filter.isReadable_compare_iff.mpr fun _ => ⟨?_, resolve_notMem scope path⟩
    rcases valueRead with rfl | valueRead
    · rfl
    · exact isObject_of_operand valueRead

theorem isReadableList_pieces {pieces : List (List Char)} {filters : List Filter}
    (compiled : pieces.mapM (pieceFilter scope) = .ok filters) :
    Filter.isReadableList filters = true := by
  induction pieces generalizing filters with
  | nil =>
    cases compiled
    rfl
  | cons piece pieces ih =>
    obtain ⟨filter, rest, rfl, first, others⟩ := mapM_pieceFilter_cons compiled
    rw [Filter.isReadableList, isReadable_leafFilter (pieceFilter_eq_ok_iff.mp first), ih others]
    rfl

/-- The filter of a clause is readable, whatever the parameters. -/
theorem isReadable_compile {params : Parameters} {text : String}
    (compiled : compile scope params text = .ok filter) : filter.isReadable = true := by
  rw [compile] at compiled
  generalize (Parameters.substitute text params).toList = s at compiled
  by_cases nothing : trim s = []
  · rw [compileText, nothing] at compiled
    cases compiled
    rfl
  · obtain ⟨pieces, filters, -, mapped, joined⟩ := compileText_eq_ok compiled nothing
    have readable := isReadableList_pieces mapped
    rcases joined with rfl | rfl | rfl
    · rw [Filter.isReadableList, Bool.and_eq_true] at readable
      exact readable.1
    · exact readable
    · exact readable

end Condition

/-! ## Statements -/

namespace Filter

theorem isReadableList_append (filters : List Filter) (other : Filter) :
    isReadableList (filters ++ [other]) = (isReadableList filters && other.isReadable) := by
  induction filters with
  | nil => simp [isReadableList]
  | cons filter rest ih => rw [List.cons_append, isReadableList, isReadableList, ih, Bool.and_assoc]

theorem isReadable_both (this other : Filter) :
    (this.both other).isReadable = (this.isReadable && other.isReadable) := by
  obtain ⟨rfl, joined⟩ | ⟨rfl, joined⟩ | ⟨filters, rfl, joined⟩ | joined := both_cases this other <;>
    rw [joined]
  · simp [isReadable]
  · simp [isReadable]
  · exact isReadableList_append filters other
  · simp [isReadable, isReadableList]

end Filter

namespace SelectPlan

theorem isReadable_existsFilter (clause : ExistsClause) (values : List Value) :
    (existsFilter clause values).isReadable = true := by
  unfold existsFilter
  split <;> rfl

/-- The filter of a SELECT is readable, whatever the parameters and the inner values. -/
theorem isReadable_selectFilter {plan : SelectPlan} {params : Parameters} {values : List Value}
    {filter : Filter} (built : plan.selectFilter params values = .ok filter) :
    filter.isReadable = true := by
  unfold selectFilter at built
  cases condition : plan.whereFilter params with
  | error e => rw [condition] at built; cases built
  | ok compiled =>
    have readable : compiled.isReadable = true := by
      unfold whereFilter at condition
      split at condition
      · exact Condition.isReadable_compile condition
      · cases condition
        rfl
    rw [condition] at built
    cases clause : plan.exists_ with
    | none =>
      rw [clause] at built
      cases built
      exact readable
    | some clause' =>
      rw [clause] at built
      cases built
      rw [Filter.isReadable_both, readable, isReadable_existsFilter]
      rfl

end SelectPlan

end DocQuery

import DocQuery.Client.Basic
import DocQuery.Proofs.Value.LooseEquality

/-! # The filter of an EXISTS clause

The values of the inner statement are kept once each and folded into the filter of the WHERE
clause. Neither step loses or adds a match.

* `Filter.test_both`, `Filter.select_both` — a conjunction passes what both sides pass.
* `SelectPlan.test_existsFilter` — the folded filter asks for one of the values, or for none.
* `Client.any_distinct` — a field equals one of the kept values if it equals one of all values.
-/

namespace DocQuery

/-! ## Conjunction -/

namespace Filter

variable {doc : Document} {first second : Filter} {passes also : Bool}

theorem testAll_append (doc : Document) (filters : List Filter) (second : Filter) :
    testAll doc (filters ++ [second]) = (do
      if ← testAll doc filters then second.test doc else .ok false) := by
  induction filters with
  | nil =>
    cases tested : second.test doc with
    | error e => simp [testAll, tested, bind, Except.bind]
    | ok also => cases also <;> simp [testAll, tested, bind, Except.bind]
  | cons filter rest ih =>
    rw [List.cons_append, testAll, testAll, ih]
    cases filter.test doc with
    | error e => rfl
    | ok found => cases found <;> rfl

/-- The two sides are tested one after the other, the second one only if the first one passes. -/
theorem test_both_eq (first second : Filter) (doc : Document) :
    (first.both second).test doc = (do
      if ← first.test doc then second.test doc else .ok false) := by
  unfold both
  split
  · rfl
  · cases tested : first.test doc with
    | error e => rfl
    | ok passes => cases passes <;> rfl
  · rw [test, test, testAll_append]
  · rw [test]
    have alone := testAll_append doc [first] second
    rw [List.singleton_append] at alone
    rw [alone, testAll]
    cases tested : first.test doc with
    | error e => rfl
    | ok passes => cases passes <;> rfl

theorem test_both (one : first.test doc = .ok passes) (other : second.test doc = .ok also) :
    (first.both second).test doc = .ok (passes && also) := by
  rw [test_both_eq, one]
  cases passes with
  | false => rfl
  | true => exact other

/-- A condition that can always be tested selects from what the other one selects. -/
theorem select_both {decides : Document → Bool}
    (tested : ∀ doc, second.test doc = .ok (decides doc)) (first : Filter) (docs : List Document) :
    (first.both second).select docs = (first.select docs).map (·.filter decides) := by
  induction docs with
  | nil => rfl
  | cons doc rest ih =>
    rw [select, select, test_both_eq, ih]
    cases first.test doc with
    | error e => rfl
    | ok passes =>
      cases first.select rest with
      | error e => cases passes <;> simp [tested, bind, Except.bind, Except.map]
      | ok others =>
        cases passes <;> cases kept : decides doc <;>
          simp [tested, kept, bind, Except.bind, Except.map]

end Filter

/-! ## Membership -/

theorem SelectPlan.test_existsFilter (clause : ExistsClause) {values : List Value}
    (some_ : values ≠ []) (doc : Document) :
    (existsFilter clause values).test doc =
      .ok (values.any (fieldEquals (doc.getPath? clause.outerField)) != clause.negated) := by
  have nonempty : values.isEmpty = false := by simpa using some_
  cases negated : clause.negated <;> simp [existsFilter, nonempty, negated, Filter.test]

namespace Client

variable {values kept : List Value}

theorem addDistinct_ne_nil (kept : List Value) (value : Value) : addDistinct kept value ≠ [] := by
  unfold addDistinct
  split
  · rename_i found
    rintro rfl
    simp at found
  · simp

theorem foldl_addDistinct_ne_nil (values : List Value) (some_ : kept ≠ []) :
    values.foldl addDistinct kept ≠ [] := by
  induction values generalizing kept with
  | nil => exact some_
  | cons value rest ih => exact ih (addDistinct_ne_nil kept value)

/-- A value that is left out is loosely equal to one that is kept, so a field that equals the one
equals the other. -/
theorem any_addDistinct {value : Value} (noFloats : ∀ v ∈ kept, v.hasFloat = false)
    (noFloat : value.hasFloat = false) (found : Option Value) :
    (addDistinct kept value).any (fieldEquals found) =
      (kept.any (fieldEquals found) || fieldEquals found value) := by
  unfold addDistinct
  split
  · rename_i duplicate
    obtain ⟨v, member, equal⟩ := List.any_eq_true.mp duplicate
    rw [← fieldEquals_congr equal (noFloats v member) noFloat found]
    cases equals : fieldEquals found v with
    | false => rw [Bool.or_false]
    | true => simpa using ⟨v, member, equals⟩
  · simp

theorem forall_mem_addDistinct {p : Value → Prop} {value : Value} (every : ∀ v ∈ kept, p v)
    (holds : p value) : ∀ v ∈ addDistinct kept value, p v := by
  unfold addDistinct
  split
  · exact every
  · simpa [or_imp, forall_and] using ⟨every, holds⟩

/-- Keeping values once each loses no match. -/
theorem any_distinct (noFloatsKept : ∀ v ∈ kept, v.hasFloat = false)
    (noFloats : ∀ v ∈ values, v.hasFloat = false) (found : Option Value) :
    (values.foldl addDistinct kept).any (fieldEquals found) =
      (kept ++ values).any (fieldEquals found) := by
  induction values generalizing kept with
  | nil => simp
  | cons value rest ih =>
    obtain ⟨noFloat, others⟩ := List.forall_mem_cons.mp noFloats
    rw [List.foldl_cons, ih (forall_mem_addDistinct noFloatsKept noFloat) others,
      List.any_append, any_addDistinct noFloatsKept noFloat, List.any_append, List.any_cons,
      Bool.or_assoc]

end Client

end DocQuery

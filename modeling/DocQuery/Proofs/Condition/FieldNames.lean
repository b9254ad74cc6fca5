import DocQuery.Condition.Compile

/-! # Field names of a condition

What the field names of a clause mean changes the names in its filter and nothing else.

* `Filter.renamed` — a filter with other names of its fields.
* `Condition.compile_scope` — the filter of a clause about groups from the one about rows.
-/

namespace DocQuery

namespace Filter

mutual

/-- The filter with other names of its fields. -/
def renamed (rename : String → String) : Filter → Filter
  | .empty => .empty
  | .compare op field value => .compare op (rename field) value
  | .range field low high => .range (rename field) low high
  | .isIn field values => .isIn (rename field) values
  | .notIn field values => .notIn (rename field) values
  | .present field expected => .present (rename field) expected
  | .pattern field source options => .pattern (rename field) source options
  | .all filters => .all (renamedList rename filters)
  | .any filters => .any (renamedList rename filters)

def renamedList (rename : String → String) : List Filter → List Filter
  | [] => []
  | filter :: rest => renamed rename filter :: renamedList rename rest

end

end Filter

namespace Condition

open DocQuery.Filter

variable {scope : Scope}

theorem comparisonFilter_renamed (rename : String → String) (field : String) (op : Comparison)
    (text : List Char) : comparisonFilter (rename field) op text =
      (comparisonFilter field op text).map (renamed rename) := by
  simp only [comparisonFilter]
  split
  · cases op <;> rfl
  · cases operand (op == .eq) (Text.trim text) <;> rfl

/-- The shape of a condition does not hang on what its field means. -/
theorem leafFilter_scope (scope : Scope) (s : List Char) :
    leafFilter scope s = (leafFilter .rows s).map (renamed scope.resolve) := by
  unfold leafFilter
  by_cases empty : s.isEmpty = true
  · rw [if_pos empty, if_pos empty]
    rfl
  rw [if_neg empty, if_neg empty]
  cases between? s with
  | some parts =>
    obtain ⟨field, low, high⟩ := parts
    simp only [bind, Except.bind]
    cases operand false low with
    | error fault => rfl
    | ok low => cases operand false high <;> rfl
  | none =>
  cases membership? s with
  | some parts =>
    obtain ⟨field, negated, items⟩ := parts
    cases negated <;> rfl
  | none =>
  cases presence? s with
  | some parts => rfl
  | none =>
  cases pattern? s with
  | some parts => rfl
  | none =>
  cases comparison? s with
  | some parts => exact comparisonFilter_renamed scope.resolve _ _ _
  | none => rfl

theorem pieceFilter_scope (scope : Scope) (piece : List Char) :
    pieceFilter scope piece = (pieceFilter .rows piece).map (renamed scope.resolve) := by
  rw [pieceFilter, pieceFilter, leafFilter_scope]
  cases leafFilter .rows (Text.trim piece) <;> rfl

theorem mapM_pieceFilter_scope (scope : Scope) (pieces : List (List Char)) :
    pieces.mapM (pieceFilter scope) =
      (pieces.mapM (pieceFilter .rows)).map (renamedList scope.resolve) := by
  induction pieces with
  | nil => rfl
  | cons piece rest ih =>
    rw [List.mapM_cons, List.mapM_cons, pieceFilter_scope, ih]
    cases pieceFilter .rows piece with
    | error e => rfl
    | ok filter => cases rest.mapM (pieceFilter .rows) <;> rfl

theorem compileText_scope (scope : Scope) (s : List Char) :
    compileText scope s = (compileText .rows s).map (renamed scope.resolve) := by
  unfold compileText
  by_cases empty : (Text.trim s).isEmpty = true
  · simp only [empty, if_true]
    rfl
  simp only [empty, mapM_pieceFilter_scope scope]
  cases reporting (Text.trim s) (cutConditions (Text.trim s)) with
  | error e => rfl
  | ok pieces =>
    simp only [bind, Except.bind]
    cases pieces.has .and && pieces.has .or with
    | true => rfl
    | false =>
      cases pieces.toList.mapM (pieceFilter .rows) with
      | error e => rfl
      | ok filters =>
        cases pieces.has .or <;> cases filters with
        | nil => simp [Except.map, renamed, renamedList, pure, Except.pure]
        | cons filter rest =>
          cases rest <;> simp [Except.map, renamed, renamedList, pure, Except.pure]

/-- A clause about groups has the filter of the clause about rows, with the names of the keys below
the identifier. -/
theorem compile_scope (scope : Scope) (params : Parameters) (text : String) :
    compile scope params text = (compile .rows params text).map (renamed scope.resolve) :=
  compileText_scope scope _

end Condition

end DocQuery

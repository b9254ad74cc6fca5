import DocQuery.Proofs.Execute.GroupConditions
import DocQuery.Proofs.Execute.Stages

/-! # A condition as WHERE and as HAVING

A condition that compares group keys with values selects the same groups in both clauses, unless an
output of the groups takes the place of their keys.

* `SelectPlan.grouped` — the plan of a grouping, run over documents.
* `run_select_group` — the first two stages with a filter before and behind the groups.
* `where_eq_having` — both clauses, for every plan and every list of documents.
* `having_misses_hidden_key` — a key that is the identifier in capitals.
-/

namespace DocQuery

open Condition

namespace SelectPlan

/-- The pipeline of a grouping with the filter of its WHERE clause, run over documents. -/
def grouped (plan : SelectPlan) (params : Parameters) (docs : List Document) :
    Except SqlError (Except QueryError (List Document)) := do
  let filter ← plan.whereFilter params
  let stages ← plan.groupPipeline filter params
  return Pipeline.run stages docs

def withWhere (plan : SelectPlan) (keys : List String) (text : String) : SelectPlan :=
  { plan with predicate := some text, groupBy := some ⟨keys, none⟩ }

def withHaving (plan : SelectPlan) (keys : List String) (text : String) : SelectPlan :=
  { plan with predicate := none, groupBy := some ⟨keys, some text⟩ }

/-- Whether a selected key is called like the identifier of the groups, below which the keys are. -/
def hidesKeys (plan : SelectPlan) (keys : List String) : Bool :=
  names keys idField && idField ∈ plan.fields

variable {plan : SelectPlan} {keys : List String}

theorem id_notMem_groupOutputs
    (label : ∀ call, plan.aggregate = some call → call.label ≠ idField)
    (shown : plan.hidesKeys keys = false) : idField ∉ (plan.groupOutputs keys).map (·.1) := by
  intro member
  obtain ⟨output, inside, called⟩ := List.mem_map.mp member
  obtain ⟨field, listed, made⟩ := List.mem_filterMap.mp inside
  split at made
  · rename_i call found
    cases made
    obtain ⟨aggregate, labelled⟩ := Option.filter_eq_some_iff.mp found
    exact label call aggregate ((beq_iff_eq.mp labelled).trans called)
  · split at made
    · rename_i key
      cases made
      subst called
      simp [hidesKeys, key, listed] at shown
    · cases made

/-! ## The two pipelines -/

variable {params : Parameters} {text : String} {filter having : Filter} {docs : List Document}

theorem grouped_withWhere (compiled : compile .rows params text = .ok filter) :
    (plan.withWhere keys text).grouped params docs =
      (plan.order (plan.groupedPath keys)).map fun order => Pipeline.run
        ([.select filter, .group (.fields keys) (plan.groupOutputs keys)] ++ plan.lastStages order)
        docs := by
  change (compile .rows params text).bind (fun _ =>
    ((plan.order (plan.groupedPath keys)).bind _).bind _) = _
  rw [compiled]
  cases plan.order (plan.groupedPath keys) <;> rfl

theorem grouped_withHaving (compiled : compile (.groups keys) params text = .ok having) :
    (plan.withHaving keys text).grouped params docs =
      (plan.order (plan.groupedPath keys)).map fun order => Pipeline.run
        ([.select .empty, .group (.fields keys) (plan.groupOutputs keys), .select having] ++
          plan.lastStages order) docs := by
  change (((compile (.groups keys) params text).map _).bind fun _ =>
    (plan.order (plan.groupedPath keys)).bind _).bind _ = _
  rw [compiled]
  cases plan.order (plan.groupedPath keys) <;> rfl

end SelectPlan

/-! ## The groups -/

variable {keys : List String} {outputs : List (String × Accumulator)} {filter : Filter}
  {docs : List Document}

theorem resolve_key {key : String} (listed : key ∈ keys) :
    (Scope.groups keys).resolve key = idField ++ "." ++ key := by
  have known : keys.any (Text.eqIgnoreCase · key) = true :=
    List.any_eq_true.mpr ⟨key, listed, beq_self_eq_true _⟩
  rw [Scope.resolve, if_pos known]
  rfl

/-- A filter that compares keys selects the same groups in front of the groups and, with the keys
below the identifier, behind them. -/
theorem run_select_group (compares : filter.comparesOnly keys = true)
    (pointless : ∀ key ∈ keys, '.' ∉ key.toList) (noId : idField ∉ outputs.map (·.1))
    (simple : ∀ doc ∈ docs, ∀ key ∈ keys, (doc.groupValue key).isSimple = true) :
    ∃ groups,
      Pipeline.run [.select filter, .group (.fields keys) outputs] docs = .ok groups ∧
      Pipeline.run [.select .empty, .group (.fields keys) outputs,
        .select (filter.renamed (Scope.groups keys).resolve)] docs = .ok groups := by
  let key := GroupKey.fields keys
  let having := filter.renamed (Scope.groups keys).resolve
  have tested : ∀ doc ∈ docs, ∃ passes,
      having.test (groupOf key outputs docs (key.written doc)) = .ok passes ∧
        filter.test doc = .ok passes := fun doc member =>
    Filter.test_renamed compares fun name listed =>
      resolve_key listed ▸ indistinct_groupOf noId pointless simple member listed
  have carried : ∀ doc ∈ docs,
      filter.accepts doc = having.accepts (groupOf key outputs docs (key.written doc)) := by
    intro doc member
    obtain ⟨passes, behind, front⟩ := tested doc member
    rw [Filter.accepts, Filter.accepts, behind, front]
  have front : filter.select docs = .ok (docs.filter filter.accepts) :=
    Filter.select_eq_filter fun doc member => (tested doc member).imp fun _ => And.right
  have behind : having.select (groupDocuments key outputs docs) =
      .ok ((groupDocuments key outputs docs).filter having.accepts) := by
    refine Filter.select_eq_filter fun group member => ?_
    rw [groupDocuments_eq_map] at member
    obtain ⟨text, occurs, rfl⟩ := List.mem_map.mp member
    obtain ⟨doc, inside, rfl⟩ := List.mem_map.mp (List.mem_eraseDups.mp occurs)
    exact (tested doc inside).imp fun _ => And.left
  refine ⟨groupDocuments key outputs (docs.filter filter.accepts), ?_, ?_⟩
  · rw [Pipeline.run, Stage.run, front]
    rfl
  · rw [Pipeline.run, Stage.run, Filter.select_empty, groupDocuments_filter carried]
    change Pipeline.run [.select having] (groupDocuments key outputs docs) = _
    rw [Pipeline.run, Stage.run, behind]
    rfl

/--
Where the values of the group keys are simple and no output hides the keys, a condition that
compares keys with values gives the same groups, in the same order, as WHERE and as HAVING. If the
order cannot be read, both plans fail in the same way.
-/
theorem where_eq_having (plan : SelectPlan) (params : Parameters) (text : String)
    (compiled : compile .rows params text = .ok filter)
    (compares : filter.comparesOnly keys = true) (pointless : ∀ key ∈ keys, '.' ∉ key.toList)
    (label : ∀ call, plan.aggregate = some call → call.label ≠ idField)
    (shown : plan.hidesKeys keys = false)
    (simple : ∀ doc ∈ docs, ∀ key ∈ keys, (doc.groupValue key).isSimple = true) :
    match plan.order (plan.groupedPath keys) with
    | .error e =>
      (plan.withWhere keys text).grouped params docs = .error e ∧
        (plan.withHaving keys text).grouped params docs = .error e
    | .ok _ => ∃ groups,
      (plan.withWhere keys text).grouped params docs = .ok (.ok groups) ∧
        (plan.withHaving keys text).grouped params docs = .ok (.ok groups) := by
  have after : compile (.groups keys) params text =
      .ok (filter.renamed (Scope.groups keys).resolve) := by
    rw [compile_scope, compiled]
    rfl
  obtain ⟨groups, front, behind⟩ := run_select_group compares pointless
    (SelectPlan.id_notMem_groupOutputs label shown) simple
  rw [SelectPlan.grouped_withWhere compiled, SelectPlan.grouped_withHaving after]
  cases plan.order (plan.groupedPath keys) with
  | error e => exact ⟨rfl, rfl⟩
  | ok order =>
    refine ⟨plan.page (arranged order groups), congrArg Except.ok ?_, congrArg Except.ok ?_⟩
    · beta_reduce
      rw [Pipeline.run_append, front]
      exact plan.run_lastStages order groups
    · beta_reduce
      rw [Pipeline.run_append, behind]
      exact plan.run_lastStages order groups

/-- A clause whose filter compares some fields has such a filter. -/
theorem compiled_of_any {scope : Scope} {params : Parameters} {text : String}
    (checked : (compile scope params text).toOption.any (·.comparesOnly keys) = true) :
    ∃ filter, compile scope params text = .ok filter ∧ filter.comparesOnly keys = true := by
  cases compiled : compile scope params text with
  | error e => simp [compiled, Except.toOption] at checked
  | ok filter => exact ⟨filter, rfl, by simpa [compiled, Except.toOption] using checked⟩

/-- Integers of both widths, null and missing fields, with an order and a limit. -/
theorem where_eq_having_over_mixed_values :
    let plan : SelectPlan :=
      ⟨"t", ["city", "n"], none, some "n DESC", some 2, none, false, some (.count "n"), none, none⟩
    let docs : List Document := [⟨[("city", .int32 7), ("kind", .null)]⟩, ⟨[("city", .int64 9)]⟩,
      ⟨[("city", .int64 7)]⟩, ⟨[("city", .string "7"), ("kind", .bool true)]⟩]
    let text := "city <= 7 AND kind = ''"
    ((∃ filter, compile .rows [] text = .ok filter ∧ filter.comparesOnly ["city", "kind"] = true) ∧
      (∀ key ∈ ["city", "kind"], '.' ∉ key.toList) ∧
      (∀ call, plan.aggregate = some call → call.label ≠ idField) ∧
      plan.hidesKeys ["city", "kind"] = false ∧
      ∀ doc ∈ docs, ∀ key ∈ ["city", "kind"], (doc.groupValue key).isSimple = true) ∧
    ∃ groups, (plan.withWhere ["city", "kind"] text).grouped [] docs = .ok (.ok groups) ∧
      (plan.withHaving ["city", "kind"] text).grouped [] docs = .ok (.ok groups) := by
  intro plan docs text
  have compiled : ∃ filter, compile .rows [] text = .ok filter ∧
      filter.comparesOnly ["city", "kind"] = true := compiled_of_any (by decide +kernel)
  have label : ∀ call, plan.aggregate = some call → call.label ≠ idField := by
    rintro call ⟨⟩
    decide
  have simple : ∀ doc ∈ docs, ∀ key ∈ ["city", "kind"], (doc.groupValue key).isSimple = true := by
    decide +kernel
  have ordered : (plan.order (plan.groupedPath ["city", "kind"])).isOk = true := by
    decide +kernel
  refine ⟨⟨compiled, by decide, label, by decide +kernel, simple⟩, ?_⟩
  obtain ⟨filter, read, compares⟩ := compiled
  have same := where_eq_having plan [] text read compares (by decide) label (by decide +kernel) simple
  cases order : plan.order (plan.groupedPath ["city", "kind"]) with
  | error e => exact nomatch order ▸ ordered
  | ok keys => rwa [order] at same

/-- How many groups there are, if nothing fails. -/
def groupCount? (result : Except SqlError (Except QueryError (List Document))) : Option Nat :=
  (result.toOption.bind Except.toOption).map List.length

/-- The selected key takes the place of the identifier of the group, where HAVING looks for it. -/
theorem having_misses_hidden_key :
    let plan : SelectPlan :=
      ⟨"t", ["_id", "n"], none, none, none, none, false, some (.count "n"), none, none⟩
    let docs : List Document := [⟨[("_ID", .int64 5), ("_id", .int64 1)]⟩]
    (∃ filter, compile .rows [] "_ID = 5" = .ok filter ∧ filter.comparesOnly ["_ID"] = true) ∧
      (∀ doc ∈ docs, ∀ key ∈ ["_ID"], (doc.groupValue key).isSimple = true) ∧
      groupCount? ((plan.withWhere ["_ID"] "_ID = 5").grouped [] docs) = some 1 ∧
      groupCount? ((plan.withHaving ["_ID"] "_ID = 5").grouped [] docs) = some 0 :=
  ⟨compiled_of_any (by decide +kernel), by decide +kernel, by decide +kernel, by decide +kernel⟩

end DocQuery

import DocQuery.Proofs.Client.FoundRows

/-! # Distinct values of one column

A SELECT DISTINCT of one column gives a table when it runs as a query, and a list when the values of
its column are asked for. The table groups and then cuts out the window; the list cuts out the window
of a find query, and then leaves out repetitions.

* `SelectPlan.IsDistinctColumn` — the plans of such statements.
* `Direct.run_select_distinct`, `Direct.run_valueList_distinct` — both calls without caches.
* `Shown` — columns whose values both ways take for the same.
* `distinct_lists` — both calls in every session.
* `distinct_lists_differ` — sessions in which the list is not the column of the table.
-/

namespace DocQuery

/-- A plan that selects one column without repetitions, in the order of that column if in any. -/
structure SelectPlan.IsDistinctColumn (plan : SelectPlan) (column : String)
    (direction : Option Bool) : Prop where
  name : IsName column
  fields : plan.fields = [column]
  isDistinct : plan.distinct = true
  noCall : plan.aggregate = none
  noGroups : plan.groupBy = none
  noExists : plan.exists_ = none
  order : plan.order id = .ok (columnOrder column direction)

namespace SelectPlan

variable {plan : SelectPlan} {column : String} {direction : Option Bool} {params : Parameters}
  {filter : Filter} {docs : List Document}

namespace IsDistinctColumn

variable (shape : plan.IsDistinctColumn column direction)

include shape

theorem plainFields : plan.plainFields = [column] := by
  simp [SelectPlan.plainFields, shape.fields, shape.noCall, shape.name.ne_star]

theorem isWildcard : plan.isWildcard = false := by
  simp [SelectPlan.isWildcard, shape.fields, shape.name.ne_star]

theorem distinctPipeline (filter : Filter) : plan.distinctPipeline filter =
    .ok ((if filter.isEmpty then [] else [.select filter]) ++
      ([.group (.fields [column]) [], .replaceRoot idField] ++
        plan.lastStages (columnOrder column direction))) := by
  rw [SelectPlan.distinctPipeline, shape.order, shape.isWildcard, shape.plainFields]
  simp [lastStages, bind, Except.bind, pure, Except.pure]

theorem planWith (filter : Filter) :
    plan.planWith params filter = (plan.distinctPipeline filter).map .aggregate := by
  have strategy : plan.strategy = .distinct := by
    simp [SelectPlan.strategy, shape.noExists, shape.noGroups, shape.isDistinct]
  rw [SelectPlan.planWith, strategy]

/-- The pipeline gives a document for each value, in order and cut to the window. -/
theorem run_distinctPipeline (filter : Filter) (docs : List Document) :
    ∃ stages, plan.distinctPipeline filter = .ok stages ∧ Pipeline.run stages docs =
      (filter.select docs).map fun found => plan.page (arranged (columnOrder column direction)
        ((firsts Value.writtenAlike (found.map (·.groupValue column))).map
          (Document.single column))) := by
  refine ⟨_, shape.distinctPipeline filter, ?_⟩
  have selected : Pipeline.run (if filter.isEmpty then [] else [.select filter]) docs =
      filter.select docs := by
    cases filter
    case empty => exact (Filter.select_empty docs).symm
    all_goals
      change (Filter.select _ docs).bind Except.ok = _
      cases Filter.select _ docs <;> rfl
  rw [Pipeline.run_append, selected]
  cases filter.select docs with
  | error e => rfl
  | ok found =>
    change Pipeline.run _ found = _
    rw [Pipeline.run_append, run_distinct]
    exact plan.run_lastStages _ _

end IsDistinctColumn

end SelectPlan

/-! ## The direct client -/

namespace Direct

open DirectCall

variable {settings : Settings} {ids : IdSupply} {sql : String} {plan : SelectPlan}
  {column : String} {direction : Option Bool} {params : Parameters} {m : Memory}

variable (accepted : checkStatement settings.forbidCastSort sql = .ok ())
  (read : extractSelect (cleanStatement sql) = .ok plan)
  (allowed : settings.isAllowed plan.table = true) (shape : plan.IsDistinctColumn column direction)

include accepted read allowed shape

theorem run_select_distinct :
    (select ⟨settings, Memory.store ids⟩ sql params).run m =
      ((plan.found params (m.documents plan.table)).map fun found =>
        .ofDocuments (plan.page (arranged (columnOrder column direction)
          ((firsts Value.writtenAlike (found.map (·.groupValue column))).map
            (Document.single column)))), m) := by
  rw [select, run_prepareSelect accepted read allowed, planExistsValues_bind,
    ← selected_eq_found shape.noExists]
  refine run_resolvedFilter_bind fun filter => ?_
  obtain ⟨stages, planned, ran⟩ := shape.run_distinctPipeline filter (m.documents plan.table)
  have query : plan.planWith params filter = .ok (.aggregate stages) := by
    rw [shape.planWith, planned]
    rfl
  have asked : (runPlan ⟨settings, Memory.store ids⟩ plan (.aggregate stages)).run m =
      ((Memory.ofQuery (Pipeline.run stages (m.documents plan.table))).mapError .store, m) :=
    run_ask_query rfl
  rw [ran, Memory.ofQuery_map] at asked
  rw [run_bind_ok (run_ofExcept query m), run_bind_pure asked]
  cases (Memory.ofQuery (filter.select (m.documents plan.table))).mapError SqlError.store <;> rfl

theorem run_valueList_distinct (top : plan.top ≠ some 0) :
    (valueList ⟨settings, Memory.store ids⟩ sql params).run m =
      ((plan.found params (m.documents plan.table)).map fun found =>
        distinct (plan.page ((arranged (columnOrder column direction) found).map
          (·.groupValue column))), m) := by
  rw [run_valueList accepted read allowed top shape.name shape.fields shape.noCall shape.order,
    selected_eq_found shape.noExists]
  simp only [shape.isDistinct, if_true, SelectPlan.map_page]

end Direct

/-! ## Both ways -/

variable {settings : Settings} {ids : IdSupply} {sql : String} {plan : SelectPlan}
  {column : String} {direction : Option Bool} {params : Parameters}

/-- Values of a column that both ways can show: settled ones, and no object under the identifier,
whose fields would be columns of their own. -/
structure Shown (column : String) (direction : Option Bool) (docs : List Document) : Prop where
  settled : Settled direction (docs.map (·.groupValue column))
  noObject : column = idField → ∀ doc ∈ docs, (doc.groupValue column).isObject = false

theorem isObject_page (shown : Shown column direction docs) (same : column = idField) :
    ∀ value ∈ plan.page (distinct (ordered direction (docs.map (·.groupValue column)))),
      value.isObject = false := by
  intro value member
  have inOrder := (firsts_sublist _ _).subset ((plan.page_sublist _).subset member)
  have inside : value ∈ docs.map (·.groupValue column) := by
    cases direction with
    | none => exact inOrder
    | some descending => exact List.mem_mergeSort.mp inOrder
  obtain ⟨doc, found, rfl⟩ := List.mem_map.mp inside
  exact shown.noObject same doc found

section Faithful

variable {s : Session Memory} (faithful : s.Faithful)
  (accepted : checkStatement settings.forbidCastSort sql = .ok ())
  (read : extractSelect (cleanStatement sql) = .ok plan)
  (allowed : settings.isAllowed plan.table = true) (shape : plan.IsDistinctColumn column direction)

include faithful accepted read allowed shape

theorem select_distinct (ids : IdSupply) (params : Parameters) :
    (Client.select ⟨settings, Memory.store ids⟩ sql params s).1 =
      (plan.found params (s.store.documents plan.table)).map fun found =>
        .ofDocuments (plan.page (arranged (columnOrder column direction)
          ((firsts Value.writtenAlike (found.map (·.groupValue column))).map
            (Document.single column)))) :=
  (Client.agrees_select fun _ => rfl).answer_eq faithful
    (Direct.run_select_distinct accepted read allowed shape)

theorem valueList_distinct (ids : IdSupply) (params : Parameters) :
    (Client.valueList ⟨settings, Memory.store ids⟩ sql params s).1 =
      (plan.found params (s.store.documents plan.table)).map fun found =>
        distinct (plan.page ((arranged (columnOrder column direction) found).map
          (·.groupValue column))) :=
  (Client.agrees_valueList fun _ => rfl).answer_eq faithful
    (Direct.run_valueList_distinct accepted read allowed shape (top_of_extractSelect read))

end Faithful

/--
In every session that a client of a store in memory can reach, a statement that selects one column
without repetitions fails as a table and as a list with one error, or both succeed. With the values
of the column in the selected documents, in order, the table has the window of the different values
and the list the different values of the window. Without a window the cells are the list.
-/
theorem distinct_lists {s : Session Memory}
    (reached : ∃ operations start,
      Operation.runAll ⟨settings, Memory.store ids⟩ operations (Session.start start) = s)
    (accepted : checkStatement settings.forbidCastSort sql = .ok ())
    (read : extractSelect (cleanStatement sql) = .ok plan)
    (allowed : settings.isAllowed plan.table = true)
    (shape : plan.IsDistinctColumn column direction)
    (shown : ∀ docs, plan.found params (s.store.documents plan.table) = .ok docs →
      Shown column direction docs) :
    let selected := (Client.select ⟨settings, Memory.store ids⟩ sql params s).1
    let listed := (Client.valueList ⟨settings, Memory.store ids⟩ sql params s).1
    match plan.found params (s.store.documents plan.table) with
    | .error e => selected = .error e ∧ listed = .error e
    | .ok docs => ∃ table list, selected = .ok table ∧ listed = .ok list ∧
      let values := ordered direction (docs.map (·.groupValue column))
      table.cells column = (plan.page (distinct values)).map some ∧
        list = distinct (plan.page values) ∧
        (plan.top = none → plan.skip = none → table.cells column = list.map some) := by
  intro selected listed
  have faithful : s.Faithful := by
    obtain ⟨operations, start, rfl⟩ := reached
    exact Operation.runAll_faithful _ operations start
  have table : selected = _ := select_distinct faithful accepted read allowed shape ids params
  have list : listed = _ := valueList_distinct faithful accepted read allowed shape ids params
  rw [table, list]
  cases found : plan.found params (s.store.documents plan.table) with
  | error e => exact ⟨rfl, rfl⟩
  | ok docs =>
    have fits := shown docs found
    let values := ordered direction (docs.map (·.groupValue column))
    have cells : (ResultTable.ofDocuments (plan.page (arranged (columnOrder column direction)
        ((firsts Value.writtenAlike (docs.map (·.groupValue column))).map
          (Document.single column))))).cells column = (plan.page (distinct values)).map some := by
      rw [arranged_groups shape.name fits.settled, ← plan.map_page]
      exact cells_ofDocuments (isObject_page fits)
    have entries : distinct (plan.page ((arranged (columnOrder column direction) docs).map
        (·.groupValue column))) = distinct (plan.page values) := by
      rw [map_arranged fits.settled]
    refine ⟨_, _, rfl, rfl, cells, entries, fun top skip => cells.trans (congrArg _ ?_)⟩
    refine .trans ?_ entries.symm
    rw [plan.page_eq_self top skip, plan.page_eq_self top skip]

/-- Integers of both widths, null and a missing field, with a condition and in descending order. -/
theorem distinct_lists_descending :
    let client : Client Memory := ⟨.standard "localhost" "test", Memory.store fun _ => .nil⟩
    let s : Session Memory := .start ⟨[("table1", [⟨[("c", .int32 2)]⟩, ⟨[]⟩, ⟨[("c", .int64 7)]⟩,
      ⟨[("c", .int64 2)]⟩, ⟨[("c", .null)]⟩])], 0⟩
    let sql := "SELECT DISTINCT c FROM table1 ORDER BY c DESC"
    let plan : SelectPlan :=
      ⟨"table1", ["c"], none, some "c DESC", none, none, true, none, none, none⟩
    (checkStatement true sql = .ok () ∧ extractSelect (cleanStatement sql) = .ok plan ∧
      client.settings.isAllowed "table1" = true ∧ plan.IsDistinctColumn "c" (some true) ∧
      ∀ docs, plan.found [] (s.store.documents "table1") = .ok docs →
        Shown "c" (some true) docs) ∧
    ∃ table list, (client.select sql [] s).1 = .ok table ∧ (client.valueList sql [] s).1 = .ok list ∧
      table.cells "c" = list.map some := by
  intro client s sql plan
  -- letters stand for the text, since the kernel takes long to decode a long text
  have letters : sql.toList = _ := String.toList_ofList
  have accepted : checkStatement true sql = .ok () := by
    rw [checkStatement, letters]
    decide +kernel
  have read : extractSelect (cleanStatement sql) = .ok plan := by
    rw [cleanStatement, letters, extractSelect, String.toList_ofList]
    decide +kernel
  have shape : plan.IsDistinctColumn "c" (some true) :=
    ⟨by decide, rfl, rfl, rfl, rfl, rfl, by decide +kernel⟩
  have shown : ∀ docs, plan.found [] (s.store.documents "table1") = .ok docs →
      Shown "c" (some true) docs := by
    intro docs found
    obtain rfl : [⟨[("c", .int32 2)]⟩, ⟨[]⟩, ⟨[("c", .int64 7)]⟩, ⟨[("c", .int64 2)]⟩,
        ⟨[("c", .null)]⟩] = docs := Except.ok.inj found
    exact ⟨settled_of_plain (by decide +kernel) (by decide +kernel) (by decide +kernel),
      fun same => absurd same (by decide)⟩
  have allowed : client.settings.isAllowed "table1" = true := by decide
  have reached : ∃ operations start,
      Operation.runAll client operations (Session.start start) = s := ⟨[], _, rfl⟩
  refine ⟨⟨accepted, read, allowed, shape, shown⟩, ?_⟩
  obtain ⟨table, list, selected, listed, -, -, same⟩ :=
    @distinct_lists client.settings _ sql plan "c" (some true) [] s reached accepted read allowed
      shape shown
  exact ⟨table, list, selected, listed, same rfl rfl⟩

/-! ## Where both differ -/

/-- What a statement answers as a table and as a list, in a client of two collections. -/
def Client.bothLists (docs others : List Document) (column sql : String) :
    Option (List (Option String)) × Option (List String) :=
  let client : Client Memory := ⟨.standard "localhost" "test", Memory.store fun _ => .nil⟩
  let s : Session Memory := .start ⟨[("table1", docs), ("table2", others)], 0⟩
  ((client.select sql [] s).1.toOption.map fun table =>
      (table.cells column).map (·.map Value.text),
    (client.valueList sql [] s).1.toOption.map (·.map Value.text))

/-- A word is at one place with each number: the list is sorted with both words in it, and no number
then has to move, while the table sorts the different values. -/
theorem bothLists_mixed :
    Client.bothLists [⟨[("c", .string "a")]⟩, ⟨[("c", .int64 2)]⟩, ⟨[("c", .string "a")]⟩,
        ⟨[("c", .int64 1)]⟩] [] "c" "SELECT DISTINCT c FROM table1 ORDER BY c" =
      (some [some "a", some "1", some "2"], some ["a", "2", "1"]) := by
  let client : Client Memory := ⟨.standard "localhost" "test", Memory.store fun _ => .nil⟩
  let values : List Value := [.string "a", .int64 2, .string "a", .int64 1]
  let s : Session Memory :=
    .start ⟨[("table1", values.map (Document.single "c")), ("table2", [])], 0⟩
  let sql := "SELECT DISTINCT c FROM table1 ORDER BY c"
  let plan : SelectPlan := ⟨"table1", ["c"], none, some "c", none, none, true, none, none, none⟩
  have letters : sql.toList = _ := String.toList_ofList
  have accepted : checkStatement client.settings.forbidCastSort sql = .ok () := by
    rw [show client.settings.forbidCastSort = true from rfl, checkStatement, letters]
    decide +kernel
  have read : extractSelect (cleanStatement sql) = .ok plan := by
    rw [cleanStatement, letters, extractSelect, String.toList_ofList]
    decide +kernel
  have allowed : client.settings.isAllowed plan.table = true := by decide
  have shape : plan.IsDistinctColumn "c" (some false) :=
    ⟨by decide, rfl, rfl, rfl, rfl, rfl, by decide +kernel⟩
  have sorted (values : List Value) := sortDocuments_single shape.name false values
  have different : firsts Value.writtenAlike values = [.string "a", .int64 2, .int64 1] := rfl
  have inOrder : values.mergeSort (Value.leBy false) = values := by
    simp [values, List.mergeSort, List.MergeSort.Internal.splitInTwo, Value.leBy, Value.le,
      Value.compare, Value.isNumber]
  have moved : [.string "a", .int64 2, .int64 1].mergeSort (Value.leBy false) =
      [.string "a", .int64 1, .int64 2] := by
    have behind : Ord.compare (2 : Int) 1 = .gt := rfl
    simp [List.mergeSort, List.MergeSort.Internal.splitInTwo, Value.leBy, Value.le, Value.compare,
      Value.isNumber, Value.compareNumbers, Value.asInt?, behind]
  have selected : (client.select sql [] s).1 =
      .ok (.ofDocuments ([.string "a", .int64 1, .int64 2].map (Document.single "c"))) := by
    rw [← moved, ← sorted, ← different]
    exact select_distinct (Session.faithful_start _) accepted read allowed shape _ []
  have listed : (client.valueList sql [] s).1 = .ok [.string "a", .int64 2, .int64 1] := by
    refine (valueList_distinct (Session.faithful_start _) accepted read allowed shape _ []).trans ?_
    change Except.ok (distinct ((sortDocuments _ (values.map (Document.single "c"))).map _)) = _
    rw [sorted, inOrder]
    rfl
  change ((client.select sql [] s).1.toOption.map _, (client.valueList sql [] s).1.toOption.map _) = _
  rw [selected, listed]
  rfl

open Direct in
/-- With an EXISTS clause the query of the table leaves no repetitions out. -/
theorem bothLists_exists :
    Client.bothLists [⟨[("c", .int64 1)]⟩, ⟨[("c", .int64 1)]⟩] [⟨[("d", .int64 1)]⟩] "c"
        "SELECT DISTINCT c FROM table1 WHERE EXISTS (SELECT 1 FROM table2 WHERE d = table1.c)" =
      (some [some "1", some "1"], some ["1"]) := by
  let client : Client Memory := ⟨.standard "localhost" "test", Memory.store fun _ => .nil⟩
  let m : Memory := ⟨[("table1", [⟨[("c", .int64 1)]⟩, ⟨[("c", .int64 1)]⟩]),
    ("table2", [⟨[("d", .int64 1)]⟩])], 0⟩
  let sql := "SELECT DISTINCT c FROM table1 WHERE EXISTS (SELECT 1 FROM table2 WHERE d = table1.c)"
  let clause : ExistsClause := ⟨false, "table2", "1", "d", "table1", "c"⟩
  have letters : sql.toList = _ := String.toList_ofList
  have accepted : checkStatement client.settings.forbidCastSort sql = .ok () := by
    rw [show client.settings.forbidCastSort = true from rfl, checkStatement, letters]
    decide +kernel
  have read : extractSelect (cleanStatement sql) =
      .ok ⟨"table1", ["c"], none, none, none, none, true, none, none, some clause⟩ := by
    rw [cleanStatement, letters, extractSelect, String.toList_ofList]
    decide +kernel
  have allowed : client.settings.isAllowed "table1" = true := by decide
  have selected : (client.select sql [] (.start m)).1 = _ :=
    (Client.agrees_select fun _ => rfl).fst_eq m
  have listed : (client.valueList sql [] (.start m)).1 = _ :=
    (Client.agrees_valueList fun _ => rfl).fst_eq m
  rw [select, run_prepareSelect accepted read allowed] at selected
  rw [valueList, run_prepareSelect accepted read allowed] at listed
  change ((client.select sql [] (.start m)).1.toOption.map _,
    (client.valueList sql [] (.start m)).1.toOption.map _) = _
  rw [selected, listed]
  decide +kernel

/-- The list has the window before the repetitions are left out, the table after that. With an EXISTS
clause the table keeps repetitions, an object as identifier has its fields as columns, and values
without an order in common are sorted in two ways. -/
theorem distinct_lists_differ :
    Client.bothLists [⟨[("c", .int64 1)]⟩, ⟨[("c", .int64 1)]⟩, ⟨[("c", .int64 2)]⟩] [] "c"
        "SELECT DISTINCT TOP 2 c FROM table1" = (some [some "1", some "2"], some ["1"]) ∧
      Client.bothLists [⟨[("c", .int64 1)]⟩, ⟨[("c", .int64 1)]⟩] [⟨[("d", .int64 1)]⟩] "c"
        "SELECT DISTINCT c FROM table1 WHERE EXISTS (SELECT 1 FROM table2 WHERE d = table1.c)" =
        (some [some "1", some "1"], some ["1"]) ∧
      Client.bothLists [⟨[("_id", .object [("x", .int64 1)])]⟩] [] "_id"
        "SELECT DISTINCT _id FROM table1" = (some [none], some ["\x7b\"x\":1\x7d"]) ∧
      Client.bothLists [⟨[("c", .string "a")]⟩, ⟨[("c", .int64 2)]⟩, ⟨[("c", .string "a")]⟩,
        ⟨[("c", .int64 1)]⟩] [] "c" "SELECT DISTINCT c FROM table1 ORDER BY c" =
        (some [some "a", some "1", some "2"], some ["a", "2", "1"]) :=
  ⟨by decide +kernel, bothLists_exists, by decide +kernel, bothLists_mixed⟩

end DocQuery

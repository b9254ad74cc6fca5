import DocQuery.Proofs.Client.FoundRows
import DocQuery.Proofs.Table.Cells

/-! # The first value of a column

The value of one column in the first document can be asked for as a single value, as the first cell
of a table and as the first of a list. The three have queries of their own, with and without order
and window, with and without the identifier beside the column.

* `ResultTable.firstCell?_ofDocuments` — the first cell of a table is below its least name.
* `SelectPlan.IsColumn`, `SelectPlan.leading` — the plans of such statements, and the column that
  comes first in their tables.
* `Direct.run_scalar_column` — the first cell as a value of a document.
* `first_values` — all three ways in every session.
* `first_values_differ` — sessions in which they give different values.
-/

namespace DocQuery

/-! ## The first cell -/

namespace ResultTable

variable {least : String} {names kept : List String}

theorem head?_insertName (name : String) (kept : List String) :
    (insertName name kept).head? =
      some (kept.head?.elim name fun head => if name < head then name else head) := by
  cases kept with
  | nil => rfl
  | cons head rest =>
    change (if head = name then head :: rest else if name < head then name :: head :: rest
      else head :: insertName name rest).head? = some (if name < head then name else head)
    by_cases same : head = name
    · rw [if_pos same, if_neg (same ▸ lt_irrefl name)]
      rfl
    · rw [if_neg same]
      split <;> rfl

/-- The head of names in order is the least that has been inserted. -/
theorem head?_foldl_insertName (occurs : least ∈ names ∨ kept.head? = some least)
    (first : ∀ name ∈ names, ¬ name < least) (firstKept : ∀ name ∈ kept.head?, ¬ name < least) :
    (names.foldl (fun kept name => insertName name kept) kept).head? = some least := by
  induction names generalizing kept with
  | nil => exact occurs.resolve_left List.not_mem_nil
  | cons name names ih =>
    obtain ⟨notBefore, later⟩ := List.forall_mem_cons.mp first
    refine ih ?_ later ?_
    · rw [head?_insertName]
      rcases occurs with inside | atHead
      · rcases List.mem_cons.mp inside with rfl | inside
        · refine .inr (congrArg some ?_)
          cases found : kept.head? with
          | none => rfl
          | some head =>
            change (if least < head then least else head) = least
            split
            · rfl
            · rename_i notAfter
              exact le_antisymm (not_lt.mp notAfter) (not_lt.mp (firstKept head found))
        · exact .inl inside
      · refine .inr ?_
        rw [atHead, Option.elim_some, if_neg notBefore]
    · rw [head?_insertName]
      rintro _ ⟨⟩
      cases found : kept.head? with
      | none => exact notBefore
      | some head =>
        change ¬ (if name < head then name else head) < least
        split
        · exact notBefore
        · exact firstKept head found

theorem head?_columnNames {rows : List (Named Value)} (occurs : least ∈ rows.flatMap Named.keys)
    (first : ∀ name ∈ rows.flatMap Named.keys, ¬ name < least) :
    (columnNames rows).head? = some least :=
  head?_foldl_insertName (.inl occurs) first (by simp)

theorem columnNames_eq_nil {rows : List (Named Value)} (empty : rows.flatMap Named.keys = []) :
    columnNames rows = [] := by
  rw [columnNames, empty]
  rfl

/-- The first cell stands below the first name, in the row of the first document. -/
theorem firstCell?_ofDocuments (docs : List Document) :
    (ofDocuments docs).firstCell? = (columnNames (docs.map flatten)).head?.bind fun name =>
      docs.head?.map fun doc => (Named.get? name (flatten doc)).getD .null := by
  rcases docs with _ | ⟨doc, rest⟩
  · rfl
  · rw [firstCell?, ofDocuments]
    cases columnNames ((doc :: rest).map flatten) <;> rfl

end ResultTable

/-! ## One column beside the identifier -/

section leading

variable {column name : String} {docs : List Document}

/-- The column that comes first in the table of a column and the identifier. -/
def leadingColumn (column : String) (docs : List Document) : String :=
  if docs.any (·.id?.isSome) && (idField < column || docs.all fun doc => (doc.get? column).isNone) then
    idField
  else column

theorem leadingColumn_cases (column : String) (docs : List Document) :
    leadingColumn column docs = column ∨ leadingColumn column docs = idField := by
  unfold leadingColumn
  split
  · exact .inr rfl
  · exact .inl rfl

/-- If one of both columns has a value, the leading one has. -/
theorem exists_leadingColumn (isOne : name = column ∨ name = idField)
    (occurs : ∃ doc ∈ docs, (doc.get? name).isSome = true) :
    ∃ doc ∈ docs, (doc.get? (leadingColumn column docs)).isSome = true := by
  unfold leadingColumn
  split
  · rename_i leads
    exact List.any_eq_true.mp (Bool.and_eq_true_iff.mp leads).1
  · rename_i follows
    rcases isOne with rfl | rfl
    · exact occurs
    · have found : docs.any (·.id?.isSome) = true := List.any_eq_true.mpr occurs
      simp only [found, Bool.true_and, Bool.or_eq_true, List.all_eq_true, not_or, not_forall]
        at follows
      obtain ⟨doc, member, some_⟩ := follows.2
      exact ⟨doc, member, by simpa [Option.isSome_iff_ne_none] using some_⟩

/-- No other column of these has values and comes before the leading one. -/
theorem leadingColumn_first (isOne : name = column ∨ name = idField)
    (occurs : ∃ doc ∈ docs, (doc.get? name).isSome = true) :
    ¬ name < leadingColumn column docs := by
  unfold leadingColumn
  split
  · rename_i leads
    rcases isOne with rfl | rfl
    · obtain ⟨doc, member, some_⟩ := occurs
      rcases Bool.or_eq_true_iff.mp (Bool.and_eq_true_iff.mp leads).2 with before | none
      · exact lt_asymm (of_decide_eq_true before)
      · have missing := List.all_eq_true.mp none doc member
        rw [Option.isNone_iff_eq_none] at missing
        simp [missing] at some_
    · exact lt_irrefl _
  · rename_i follows
    rcases isOne with rfl | rfl
    · exact lt_irrefl _
    · intro before
      have found : docs.any (·.id?.isSome) = true := List.any_eq_true.mpr occurs
      simp [found, before] at follows

end leading

/-- The identifier of a document, without its other fields. -/
def Document.idAlone (doc : Document) : Document :=
  doc.id?.elim .empty (Document.empty.insert idField)

theorem Document.get?_idAlone (doc : Document) (name : String) :
    doc.idAlone.get? name = if name = idField then doc.id? else none := by
  rw [idAlone]
  cases doc.id? with
  | none => split <;> rfl
  | some id =>
    split
    · rename_i same
      rw [same]
      rfl
    · rename_i other
      exact Named.get?_insert_of_ne other id []

theorem Document.sorted_idAlone (doc : Document) : Named.Sorted doc.idAlone.fields := by
  rw [idAlone]
  cases doc.id? with
  | none => exact List.Pairwise.nil
  | some id => exact List.pairwise_singleton _ _

/-- Documents whose identifiers are not spread over columns of their own. -/
def PlainIds (docs : List Document) : Prop :=
  ∀ doc ∈ docs, ∀ id, doc.id? = some id → id.isObject = false

namespace SelectPlan

/-- A plan that selects one column, without groups and without DISTINCT. -/
structure IsColumn (plan : SelectPlan) (column : String) : Prop where
  name : IsName column
  fields : plan.fields = [column]
  noCall : plan.aggregate = none
  noGroups : plan.groupBy = none
  notDistinct : plan.distinct = false

namespace IsColumn

variable {plan : SelectPlan} {column : String} {docs : List Document}
  (shape : plan.IsColumn column)

include shape

/-- A find query for one column keeps the identifier as well. -/
theorem shown_eq (doc : Document) :
    plan.shown doc = (doc.get? column).elim doc.idAlone (doc.idAlone.insert column) := by
  have shown : plan.shown = (Projection.empty.include_ column).apply := by
    simp [SelectPlan.shown, SelectPlan.isWildcard, SelectPlan.plainFields, shape.fields,
      shape.name.ne_star, shape.noCall]
  have keeps : (Projection.empty.include_ column).keeps idField = true := by
    have flag : Named.get? idField (Projection.empty.include_ column).fields =
        if column = idField then some true else none := rfl
    by_cases identifier : column = idField
    · rw [Projection.keeps, flag, if_pos identifier]
    · rw [Projection.keeps, flag, if_neg identifier]
      rfl
  have start : (Projection.empty.include_ column).start doc = doc.idAlone := by
    rw [Projection.start, keeps, Document.idAlone]
    cases doc.id? <;> rfl
  have copied : plan.shown doc = copyPath doc doc.idAlone column := by
    rw [shown, ← start]
    rfl
  rw [copied, copyPath, Document.getPath?_eq_get? shape.name.pointless]
  simp only [Document.setPath_of_pointless shape.name.pointless shape.name.ne_empty]
  cases doc.get? column <;> rfl

theorem sorted_shown (doc : Document) : Named.Sorted (plan.shown doc).fields := by
  rw [shape.shown_eq]
  cases doc.get? column with
  | none => exact doc.sorted_idAlone
  | some value => exact Named.sorted_insert doc.sorted_idAlone

theorem get?_shown (doc : Document) (name : String) : (plan.shown doc).get? name =
    if name = column ∨ name = idField then doc.get? name else none := by
  have alone : doc.get? column = none → (plan.shown doc).get? name = doc.idAlone.get? name :=
    fun missing => by rw [shape.shown_eq, missing, Option.elim_none]
  have beside (other : name ≠ column) : (plan.shown doc).get? name = doc.idAlone.get? name := by
    rw [shape.shown_eq]
    cases doc.get? column with
    | none => rfl
    | some value => exact Named.get?_insert_of_ne other value _
  by_cases here : name = column
  · subst here
    rw [if_pos (.inl rfl)]
    cases found : doc.get? name with
    | none =>
      rw [alone found, Document.get?_idAlone]
      split
      · rename_i same
        rwa [Document.id?, ← same]
      · rfl
    | some value =>
      rw [shape.shown_eq, found]
      exact Named.get?_insert_self name value _
  · rw [beside here, Document.get?_idAlone]
    simp only [here, false_or]
    split
    · rename_i same
      rw [same, Document.id?]
    · rfl

/-- The first cell of the table of a column is the value of the leading column. -/
theorem nonNull?_firstCell (plain : PlainIds docs) :
    Client.nonNull? (ResultTable.ofDocuments (docs.map plan.shown)).firstCell? =
      Client.nonNull? (docs.head?.bind (·.get? (leadingColumn column docs))) := by
  have row (doc : Document) (member : doc ∈ docs) (name : String) :
      Named.get? name (ResultTable.flatten (plan.shown doc)) =
        if name = column ∨ name = idField then doc.get? name else none := by
    rw [← shape.get?_shown]
    refine ResultTable.get?_flatten_of_plain (shape.sorted_shown doc) (fun id found => ?_) name
    rw [Document.id?, shape.get?_shown, if_pos (.inr rfl)] at found
    exact plain doc member id found
  have mem_names (name : String) :
      name ∈ (docs.map fun doc => ResultTable.flatten (plan.shown doc)).flatMap Named.keys ↔
        (name = column ∨ name = idField) ∧ ∃ doc ∈ docs, (doc.get? name).isSome = true := by
    simp only [List.mem_flatMap, List.mem_map, exists_exists_and_eq_and, Named.mem_keys_iff]
    constructor
    · rintro ⟨doc, member, some_⟩
      rw [row doc member] at some_
      split at some_
      · exact ⟨‹_›, doc, member, some_⟩
      · cases some_
    · rintro ⟨isOne, doc, member, some_⟩
      exact ⟨doc, member, by rwa [row doc member, if_pos isOne]⟩
  have isOne := leadingColumn_cases column docs
  have table := ResultTable.firstCell?_ofDocuments (docs.map plan.shown)
  rw [List.map_map, List.head?_map] at table
  rw [table]
  by_cases occurs : ∃ doc ∈ docs, (doc.get? (leadingColumn column docs)).isSome = true
  · have leads := ResultTable.head?_columnNames ((mem_names _).mpr ⟨isOne, occurs⟩)
      fun name member =>
        leadingColumn_first ((mem_names name).mp member).1 ((mem_names name).mp member).2
    change Client.nonNull? ((ResultTable.columnNames (docs.map fun doc =>
      ResultTable.flatten (plan.shown doc))).head?.bind _) = _
    rw [leads]
    cases first : docs.head? with
    | none => rfl
    | some doc =>
      change Client.nonNull?
          (some ((Named.get? _ (ResultTable.flatten (plan.shown doc))).getD .null)) =
        Client.nonNull? (doc.get? _)
      rw [row doc (List.mem_of_head? first), if_pos isOne]
      cases doc.get? (leadingColumn column docs) <;> rfl
  · -- no document has any of both columns, and the table has none
    have nothing :
        (docs.map fun doc => ResultTable.flatten (plan.shown doc)).flatMap Named.keys = [] :=
      List.eq_nil_iff_forall_not_mem.mpr fun name member =>
        occurs (exists_leadingColumn ((mem_names name).mp member).1 ((mem_names name).mp member).2)
    change Client.nonNull? ((ResultTable.columnNames (docs.map fun doc =>
      ResultTable.flatten (plan.shown doc))).head?.bind _) = _
    rw [ResultTable.columnNames_eq_nil nothing]
    cases first : docs.head? with
    | none => rfl
    | some doc =>
      have missing : doc.get? (leadingColumn column docs) = none :=
        Option.not_isSome_iff_eq_none.mp fun some_ => occurs ⟨doc, List.mem_of_head? first, some_⟩
      rw [Option.bind_some, missing]
      rfl

end IsColumn

end SelectPlan

/-! ## The direct client -/

namespace Direct

open DirectCall MonadExcept

variable {settings : Settings} {ids : IdSupply} {sql : String} {plan : SelectPlan}
  {column : String} {keys : Option SortKeys} {params : Parameters} {m : Memory} {e : SqlError}

/-- A call that fails for every filter. -/
theorem run_resolvedFilter_bind_error {β : Type} {step : Filter → DirectCall Memory β}
    (fails : ∀ filter, (step filter).run m = (.error e, m)) :
    (resolvedFilter ⟨settings, Memory.store ids⟩ plan params >>= step).run m =
      (((resolvedFilter ⟨settings, Memory.store ids⟩ plan params).run m).1.bind fun _ => .error e,
        m) := by
  have quiet := quiet_resolvedFilter settings ids plan params m
  rw [run_bind]
  rcases outcome : (resolvedFilter ⟨settings, Memory.store ids⟩ plan params).run m with
    ⟨filter | filter, after⟩
  all_goals
    rw [outcome] at quiet
    obtain rfl : after = m := quiet
  · rfl
  · exact fails filter

variable (accepted : checkStatement settings.forbidCastSort sql = .ok ())
  (read : extractSelect (cleanStatement sql) = .ok plan)
  (allowed : settings.isAllowed plan.table = true) (shape : plan.IsColumn column)

include accepted read allowed shape

theorem run_scalar_column (order : plan.order id = .ok keys) :
    (scalar ⟨settings, Memory.store ids⟩ sql).run m =
      ((selected settings ids plan [] m).map fun docs => Client.nonNull?
        (ResultTable.ofDocuments ((plan.page (arranged keys docs)).map plan.shown)).firstCell?,
        m) := by
  refine (run_bind_pure (run_select_find accepted read allowed (top_of_extractSelect read)
    shape.noCall shape.noGroups shape.notDistinct order)
    fun table => Client.nonNull? table.firstCell?).trans ?_
  cases selected settings ids plan [] m <;> rfl

/-- An order that cannot be read is an error of both calls that sort. -/
theorem run_unordered (unreadable : plan.order id = .error e) :
    ∃ failure, (scalar ⟨settings, Memory.store ids⟩ sql).run m = (.error failure, m) ∧
      (valueList ⟨settings, Memory.store ids⟩ sql []).run m = (.error failure, m) := by
  have noQuery (filter : Filter) : plan.findQuery filter = .error e := by
    rw [SelectPlan.findQuery, unreadable]
    rfl
  have noPlan (filter : Filter) : plan.planWith [] filter = .error e := by
    rw [SelectPlan.planWith_eq shape.noGroups shape.notDistinct, shape.noCall, noQuery]
    rfl
  have table : (select ⟨settings, Memory.store ids⟩ sql []).run m =
      (((resolvedFilter ⟨settings, Memory.store ids⟩ plan []).run m).1.bind fun _ => .error e,
        m) := by
    rw [select, run_prepareSelect accepted read allowed, planExistsValues_bind]
    refine run_resolvedFilter_bind_error fun filter => ?_
    rw [noPlan]
    rfl
  have list : (valueList ⟨settings, Memory.store ids⟩ sql []).run m =
      (((resolvedFilter ⟨settings, Memory.store ids⟩ plan []).run m).1.bind fun _ => .error e,
        m) := by
    rw [valueList, run_prepareSelect accepted read allowed,
      run_bind_ok (run_ofExcept (SelectPlan.singleColumn_eq shape.name shape.fields shape.noCall) m)]
    refine run_resolvedFilter_bind_error fun filter => ?_
    rw [noQuery]
    rfl
  have cell := run_bind_pure table fun table => Client.nonNull? table.firstCell?
  cases outcome : ((resolvedFilter ⟨settings, Memory.store ids⟩ plan []).run m).1 with
  | error failure =>
    rw [outcome] at cell list
    exact ⟨failure, cell, list⟩
  | ok filter =>
    rw [outcome] at cell list
    exact ⟨e, cell, list⟩

end Direct

/-! ## Three ways -/

theorem SelectPlan.head?_page {α : Type} {plan : SelectPlan} (top : plan.top ≠ some 0)
    (noSkip : plan.offset = none) (list : List α) : (plan.page list).head? = list.head? := by
  cases limit : plan.top with
  | none => simp [page, noSkip, limit]
  | some n =>
    have positive : n ≠ 0 := by
      rintro rfl
      exact top limit
    simp [page, noSkip, limit, List.head?_take, positive]

theorem head?_groupValue {column : String} (name : IsName column) (docs : List Document) :
    Client.nonNull? (docs.map (·.groupValue column)).head? =
      Client.nonNull? (docs.head?.bind (·.get? column)) := by
  cases docs with
  | nil => rfl
  | cons doc rest =>
    change Client.nonNull? (some ((doc.getPath? column).getD .null)) =
      Client.nonNull? (doc.get? column)
    rw [Document.getPath?_eq_get? name.pointless]
    cases doc.get? column <;> rfl

/--
In every session that a client of a store in memory can reach, for a statement that selects one
column: the single value is that of the first selected document. An order that cannot be read is
one error of the scalar and of the list; else an error of the conditions is an error of all three,
and the list has the values of the window of the ordered documents. The scalar is the value of the
first of these documents in the leading column, if no identifier is an object. So the single value
is the first of the list without order and offset, and the scalar is if the column leads.
-/
theorem first_values {settings : Settings} {ids : IdSupply} {sql column : String} {plan : SelectPlan}
    {s : Session Memory}
    (reached : ∃ operations start,
      Operation.runAll ⟨settings, Memory.store ids⟩ operations (Session.start start) = s)
    (accepted : checkStatement settings.forbidCastSort sql = .ok ())
    (read : extractSelect (cleanStatement sql) = .ok plan)
    (allowed : settings.isAllowed plan.table = true) (shape : plan.IsColumn column) :
    let client : Client Memory := ⟨settings, Memory.store ids⟩
    let single := (client.singleValue sql [] s).1
    let scalar := (client.scalar sql s).1
    let list := (client.valueList sql [] s).1
    let selected := Direct.selected settings ids plan [] s.store
    single = selected.map (fun docs => Client.nonNull? (docs.head?.bind (·.get? column))) ∧
    match plan.order id, selected with
    | .error _, _ => ∃ e, scalar = .error e ∧ list = .error e
    | .ok _, .error e => scalar = .error e ∧ list = .error e
    | .ok keys, .ok docs =>
      let rows := plan.page (arranged keys docs)
      let values := rows.map (·.groupValue column)
      ∃ cell, scalar = .ok cell ∧ list = .ok values ∧
        (plan.orderBy = none → plan.offset = none →
          single = .ok (Client.nonNull? values.head?)) ∧
        (PlainIds rows →
          cell = Client.nonNull? (rows.head?.bind (·.get? (leadingColumn column rows))) ∧
          (leadingColumn column rows = column → cell = Client.nonNull? values.head?)) := by
  intro client single scalar list selected
  obtain ⟨operations, start, reached⟩ := reached
  have faithful : s.Faithful := reached ▸ Operation.runAll_faithful client operations start
  have top := top_of_extractSelect read
  have first : single = selected.map fun docs =>
      Client.nonNull? (docs.head?.bind (·.get? column)) := by
    have same : (fun doc : Document => doc.getPath? column) = (·.get? column) :=
      funext (Document.getPath?_eq_get? shape.name.pointless)
    rw [← same]
    exact (Client.agrees_singleValue fun _ => rfl).answer_eq faithful
      (Direct.run_singleValue_column accepted read allowed shape.name shape.fields shape.noCall)
  refine ⟨first, ?_⟩
  cases order : plan.order id with
  | error e =>
    obtain ⟨failure, cell, values⟩ := Direct.run_unordered accepted read allowed shape order
    exact ⟨failure, (Client.agrees_scalar fun _ => rfl).answer_eq faithful cell,
      (Client.agrees_valueList fun _ => rfl).answer_eq faithful values⟩
  | ok keys =>
    have ofTable : scalar = selected.map fun docs => Client.nonNull?
        (ResultTable.ofDocuments ((plan.page (arranged keys docs)).map plan.shown)).firstCell? :=
      (Client.agrees_scalar fun _ => rfl).answer_eq faithful
        (Direct.run_scalar_column accepted read allowed shape order)
    have ofList : list = selected.map fun docs =>
        (plan.page (arranged keys docs)).map (·.groupValue column) := by
      have listed : list = _ := (Client.agrees_valueList fun _ => rfl).answer_eq faithful
        (Direct.run_valueList accepted read allowed top shape.name shape.fields shape.noCall order)
      simpa only [shape.notDistinct, if_neg Bool.false_ne_true] using listed
    clear_value selected
    cases selected with
    | error e => exact ⟨ofTable, ofList⟩
    | ok docs =>
      let rows := plan.page (arranged keys docs)
      have cell (plain : PlainIds rows) := shape.nonNull?_firstCell plain
      refine ⟨_, ofTable, ofList, fun noOrder noSkip => ?_, fun plain => ⟨cell plain, fun leads => ?_⟩⟩
      · obtain rfl : none = keys := by
          rw [SelectPlan.order, noOrder] at order
          exact Except.ok.inj order
        rw [first, head?_groupValue shape.name, SelectPlan.head?_page top noSkip]
        rfl
      · have value := cell plain
        rw [leads] at value
        exact value.trans (head?_groupValue shape.name rows).symm

/-- With TOP, and with a column that stands before the identifier, all three give its value. -/
theorem first_values_of_leading_column :
    let client : Client Memory := ⟨.standard "localhost" "test", Memory.store fun _ => .nil⟩
    let s : Session Memory := .start ⟨[("table1", [⟨[("C", .string "x"), ("_id", .int64 1)]⟩,
      ⟨[("_id", .int64 2)]⟩])], 0⟩
    let sql := "SELECT TOP 1 C FROM table1"
    let plan : SelectPlan := ⟨"table1", ["C"], none, none, some 1, none, false, none, none, none⟩
    (checkStatement true sql = .ok () ∧ extractSelect (cleanStatement sql) = .ok plan ∧
      client.settings.isAllowed "table1" = true ∧ plan.IsColumn "C") ∧
    (client.singleValue sql [] s).1 = .ok (some (.string "x")) ∧
      (client.scalar sql s).1 = .ok (some (.string "x")) ∧
      (client.valueList sql [] s).1 = .ok [.string "x"] := by
  intro client s sql plan
  have accepted : checkStatement true sql = .ok () := by decide +kernel
  have read : extractSelect (cleanStatement sql) = .ok plan := by decide +kernel
  have allowed : client.settings.isAllowed "table1" = true := by decide
  have shape : plan.IsColumn "C" := ⟨by decide, rfl, rfl, rfl, rfl⟩
  have reached : ∃ operations start,
      Operation.runAll client operations (Session.start start) = s := ⟨[], _, rfl⟩
  refine ⟨⟨accepted, read, allowed, shape⟩, ?_⟩
  obtain ⟨-, cell, table, list, single, plain⟩ :=
    @first_values client.settings _ sql "C" plan s reached accepted read allowed shape
  have plainIds : PlainIds [⟨[("C", .string "x"), ("_id", .int64 1)]⟩] := by
    intro doc member id found
    obtain rfl := List.mem_singleton.mp member
    obtain rfl : .int64 1 = id := Option.some.inj found
    rfl
  have first : cell = some (.string "x") := (plain plainIds).2 (by decide +kernel)
  exact ⟨single rfl rfl, by rw [← first]; exact table, list⟩

/-! ## Where they differ -/

/-- What a statement answers in the three ways, in a client of one collection. -/
def Client.firstValues (docs : List Document) (sql : String) :
    Option (Option String) × Option (Option String) × Option (List String) :=
  let client : Client Memory := ⟨.standard "localhost" "test", Memory.store fun _ => .nil⟩
  let s : Session Memory := .start ⟨[("table1", docs)], 0⟩
  ((client.singleValue sql [] s).1.toOption.map (·.map Value.text),
    (client.scalar sql s).1.toOption.map (·.map Value.text),
    (client.valueList sql [] s).1.toOption.map (·.map Value.text))

/-- The single value is that of the first document, and the others those of the least one. -/
theorem firstValues_ordered :
    Client.firstValues [⟨[("C", .int64 2), ("_id", .int64 3)]⟩, ⟨[("C", .int64 1), ("_id", .int64 4)]⟩]
      "SELECT C FROM table1 ORDER BY C" = (some (some "2"), some (some "1"), some ["1", "2"]) := by
  let client : Client Memory := ⟨.standard "localhost" "test", Memory.store fun _ => .nil⟩
  let greater : Document := ⟨[("C", .int64 2), ("_id", .int64 3)]⟩
  let least : Document := ⟨[("C", .int64 1), ("_id", .int64 4)]⟩
  let s : Session Memory := .start ⟨[("table1", [greater, least])], 0⟩
  let sql := "SELECT C FROM table1 ORDER BY C"
  let plan : SelectPlan := ⟨"table1", ["C"], none, some "C", none, none, false, none, none, none⟩
  have accepted : checkStatement client.settings.forbidCastSort sql = .ok () := by decide +kernel
  have read : extractSelect (cleanStatement sql) = .ok plan := by decide +kernel
  have allowed : client.settings.isAllowed plan.table = true := by decide
  have shape : plan.IsColumn "C" := ⟨by decide, rfl, rfl, rfl, rfl⟩
  have order : plan.order id = .ok (some [⟨"C", none, false⟩]) := by decide +kernel
  have behind : (SortKeys.compare [⟨"C", none, false⟩] greater least != .gt) = false := by
    decide +kernel
  have sorted : sortDocuments [⟨"C", none, false⟩] [greater, least] = [least, greater] := by
    simp [sortDocuments, List.mergeSort, List.MergeSort.Internal.splitInTwo, behind]
  have window (docs : List Document) : plan.page docs = docs := plan.page_eq_self rfl rfl docs
  have single : (client.singleValue sql [] s).1 = .ok (some (.int64 2)) :=
    (Client.agrees_singleValue fun _ => rfl).answer_eq (Session.faithful_start _)
      (Direct.run_singleValue_column accepted read allowed shape.name rfl rfl)
  have scalar : (client.scalar sql s).1 = .ok (some (.int64 1)) := by
    refine ((Client.agrees_scalar fun _ => rfl).answer_eq (Session.faithful_start _)
      (Direct.run_scalar_column accepted read allowed shape order)).trans ?_
    change Except.ok (Client.nonNull? (ResultTable.ofDocuments ((plan.page (sortDocuments _
      [greater, least])).map plan.shown)).firstCell?) = _
    rw [sorted, window]
    rfl
  have list : (client.valueList sql [] s).1 = .ok [.int64 1, .int64 2] := by
    refine ((Client.agrees_valueList fun _ => rfl).answer_eq (Session.faithful_start _)
      (Direct.run_valueList accepted read allowed (by decide) shape.name rfl rfl order)).trans ?_
    change Except.ok ((plan.page (sortDocuments _ [greater, least])).map _) = _
    rw [sorted, window]
    rfl
  change ((client.singleValue sql [] s).1.toOption.map _, (client.scalar sql s).1.toOption.map _,
    (client.valueList sql [] s).1.toOption.map _) = _
  rw [single, scalar, list]
  rfl

/-- The identifier stands before the column, the single value knows of no offset, a field of the
identifier stands before the column, the single value knows of no order, and does not read it. -/
theorem first_values_differ :
    Client.firstValues [⟨[("_id", .int64 1), ("c", .int64 2)]⟩] "SELECT c FROM table1" =
        (some (some "2"), some (some "1"), some ["2"]) ∧
      Client.firstValues [⟨[("C", .int64 2), ("_id", .int64 1)]⟩,
          ⟨[("C", .int64 4), ("_id", .int64 3)]⟩] "SELECT SKIP 1 C FROM table1" =
        (some (some "2"), some (some "4"), some ["4"]) ∧
      Client.firstValues [⟨[("C", .int64 2), ("_id", .object [("A", .int64 1)])]⟩]
          "SELECT C FROM table1" = (some (some "2"), some (some "1"), some ["2"]) ∧
      Client.firstValues [⟨[("C", .int64 2), ("_id", .int64 3)]⟩,
          ⟨[("C", .int64 1), ("_id", .int64 4)]⟩] "SELECT C FROM table1 ORDER BY C" =
        (some (some "2"), some (some "1"), some ["1", "2"]) ∧
      Client.firstValues [⟨[("C", .int64 2), ("_id", .int64 1)]⟩]
          "SELECT C FROM table1 ORDER BY C UP" = (some (some "2"), none, none) :=
  ⟨by decide +kernel, by decide +kernel, by decide +kernel, firstValues_ordered, by decide +kernel⟩

end DocQuery

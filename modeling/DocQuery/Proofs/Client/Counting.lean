import DocQuery.Proofs.Client.FoundRows
import DocQuery.Proofs.Statement.SingleItem

/-! # Counting

The number of documents that a condition selects can be had in six ways: by counting them, as the
number of rows of a table, as the length of a list, and as a value that the store computes.

* `IsItemSelect` — an accepted SELECT of one item under a condition.
* `counts_agree` — all six ways give one number, or fail with one error.
-/

namespace DocQuery

open DocQuery.Text DocQuery.Select

/-- An accepted statement that selects one item from a table, under a condition that is given by its
words. -/
structure IsItemSelect (settings : Settings) (item table : String) (ws : List (List Char))
    (sql : String) : Prop where
  written : words sql.toList = itemWords item.toList table.toList ws
  short : (cleanStatement sql).length ≤ maxLength
  accepted : checkStatement settings.forbidCastSort sql = .ok ()

theorem isItemSelect_iff {settings : Settings} {item table : String} {ws : List (List Char)}
    {sql : String} : IsItemSelect settings item table ws sql ↔
      words sql.toList = itemWords item.toList table.toList ws ∧
        (clean sql.toList).length ≤ maxLength ∧
        checkStatement settings.forbidCastSort sql = .ok () := by
  rw [← String.toList_ofList (l := clean sql.toList), ← cleanStatement, String.length_toList]
  exact ⟨fun ⟨written, short, accepted⟩ => ⟨written, short, accepted⟩,
    fun ⟨written, short, accepted⟩ => ⟨written, short, accepted⟩⟩

instance (settings : Settings) (item table : String) (ws : List (List Char)) (sql : String) :
    Decidable (IsItemSelect settings item table ws sql) :=
  decidable_of_iff _ isItemSelect_iff.symm

/-! ## Reading without order and window -/

/-- A plan of which every selected document is a row of its own. -/
structure SelectPlan.IsWhole (plan : SelectPlan) : Prop where
  noOrder : plan.orderBy = none
  noTop : plan.top = none
  noSkip : plan.skip = none
  notDistinct : plan.distinct = false
  noGroups : plan.groupBy = none

variable {settings : Settings} {ids : IdSupply} {sql table column : String} {plan : SelectPlan}
  {params : Parameters} {docs : List Document}

namespace SelectPlan.IsWhole

variable (whole : plan.IsWhole)

include whole

theorem order : plan.order id = .ok none := by rw [SelectPlan.order, whole.noOrder]

theorem unlimited : plan.top ≠ some 0 := by
  rw [whole.noTop]
  nofun

theorem length_page : (plan.page (arranged none docs)).length = docs.length := by
  rw [plan.page_eq_self whole.noTop whole.noSkip]
  rfl

variable {s : Session Memory} (faithful : s.Faithful)
  (accepted : checkStatement settings.forbidCastSort sql = .ok ())
  (read : extractSelect (cleanStatement sql) = .ok plan)
  (allowed : settings.isAllowed plan.table = true)

include faithful accepted read allowed

theorem size_select (noCall : plan.aggregate = none) (ids : IdSupply) (params : Parameters) :
    (Client.select ⟨settings, Memory.store ids⟩ sql params s).1.map (·.size) =
      (Direct.selected settings ids plan params s.store).map List.length := by
  rw [(Client.agrees_select fun _ => rfl).answer_eq faithful (Direct.run_select_find accepted read
    allowed whole.unlimited noCall whole.noGroups whole.notDistinct whole.order)]
  cases Direct.selected settings ids plan params s.store with
  | error e => rfl
  | ok docs => simp [Except.map, ResultTable.size, ResultTable.ofDocuments, whole.length_page]

theorem length_valueList (name : IsName column) (fields : plan.fields = [column])
    (noCall : plan.aggregate = none) (ids : IdSupply) (params : Parameters) :
    (Client.valueList ⟨settings, Memory.store ids⟩ sql params s).1.map (·.length) =
      (Direct.selected settings ids plan params s.store).map List.length := by
  rw [(Client.agrees_valueList fun _ => rfl).answer_eq faithful (Direct.run_valueList accepted read
    allowed whole.unlimited name fields noCall whole.order)]
  cases Direct.selected settings ids plan params s.store with
  | error e => rfl
  | ok docs => simp [Except.map, whole.notDistinct, whole.length_page]

theorem rows_select_count {label : String} (call : plan.aggregate = some (.count label))
    (ids : IdSupply) (params : Parameters) :
    (Client.select ⟨settings, Memory.store ids⟩ sql params s).1.map (·.rows) =
      ((Direct.selected settings ids plan params s.store).map List.length).map
        fun n => [[.int64 (Int64.ofNat n)]] := by
  rw [(Client.agrees_select fun _ => rfl).answer_eq faithful (Direct.run_select_count accepted read
    allowed call whole.noGroups whole.notDistinct)]
  cases Direct.selected settings ids plan params s.store <;> rfl

end SelectPlan.IsWhole

section Faithful

variable {s : Session Memory} (faithful : s.Faithful)
  (accepted : checkStatement settings.forbidCastSort sql = .ok ())
  (read : extractSelect (cleanStatement sql) = .ok plan)
  (allowed : settings.isAllowed plan.table = true)

include faithful accepted read allowed

theorem Client.count_eq (ids : IdSupply) (params : Parameters) :
    (Client.count ⟨settings, Memory.store ids⟩ sql params s).1 =
      (Direct.selected settings ids plan params s.store).map List.length :=
  (Client.agrees_count fun _ => rfl).answer_eq faithful (Direct.run_count accepted read allowed)

theorem Client.singleValue_count {label : String} (call : plan.aggregate = some (.count label))
    (ids : IdSupply) (params : Parameters) :
    (Client.singleValue ⟨settings, Memory.store ids⟩ sql params s).1 =
      ((Direct.selected settings ids plan params s.store).map List.length).map
        fun n => some (.int64 (Int64.ofNat n)) := by
  rw [(Client.agrees_singleValue fun _ => rfl).answer_eq faithful (Direct.run_singleValue_count
    accepted read allowed call)]
  cases Direct.selected settings ids plan params s.store <;> rfl

end Faithful

/-! ## Six counts -/

/--
For every table, column and condition, in which a keyword of another clause stands in an EXISTS
clause only, and for all documents there is one number or one error: in every session that a client
of a store in memory with these documents can reach, this is what counting gives, the number of rows
of the table of all fields and of the column, and the length of the list of the column's values; and
the count that the store computes is this number, as a single value and as the one cell of a table.
-/
theorem counts_agree {ws : List (List Char)} {wildcard single counted : String}
    (tableName : IsName table) (columnName : IsName column)
    (notKeyword : ∀ word ∈ "DISTINCT" :: clauseStarts, ¬ Spells word.toList column.toList)
    (every : ∀ w ∈ ws, IsWord w)
    (outside : ∀ part ∈ outsideExists (unwords ws), ∀ word ∈ conditionStops, Lacks word part)
    (allowed : settings.isAllowed table = true)
    (ofAll : IsItemSelect settings "*" table ws wildcard)
    (ofColumn : IsItemSelect settings column table ws single)
    (ofCount : IsItemSelect settings "COUNT(*)" table ws counted)
    (params : Parameters) (m : Memory) :
    ∃ result : Except SqlError Nat, ∀ s : Session Memory,
      (∃ operations start, Operation.runAll ⟨settings, Memory.store ids⟩ operations
        (Session.start start) = s) → s.store = m →
      let client : Client Memory := ⟨settings, Memory.store ids⟩
      (client.count wildcard params s).1 = result ∧
        (client.select wildcard params s).1.map (·.size) = result ∧
        (client.select single params s).1.map (·.size) = result ∧
        (client.valueList single params s).1.map (·.length) = result ∧
        (client.singleValue counted params s).1 =
          result.map (fun n => some (.int64 (Int64.ofNat n))) ∧
        (client.select counted params s).1.map (·.rows) =
          result.map fun n => [[.int64 (Int64.ofNat n)]] := by
  obtain ⟨plan, ofTable, noOrder, noTop, noSkip, notDistinct, noGroups, reads⟩ :=
    extractSelect_item tableName.nonempty tableName.members every outside
  -- every statement is read as this plan with fields of its own
  have read {item sql : String} {output : List String} {call : Option AggregateCall}
      (isItem : IsItem item.toList output call) (statement : IsItemSelect settings item table ws sql) :
      extractSelect (cleanStatement sql) = .ok { plan with fields := output, aggregate := call } := by
    have text : (cleanStatement sql).toList = unwords (itemWords item.toList table.toList ws) := by
      rw [cleanStatement, String.toList_ofList, clean, statement.written]
    refine reads isItem ?_ ?_
    · rw [cleanStatement, String.toList_ofList, words_clean, statement.written]
    · rw [← text, String.length_toList]
      exact statement.short
  have whole (output : List String) (call : Option AggregateCall) :
      SelectPlan.IsWhole { plan with fields := output, aggregate := call } :=
    ⟨noOrder, noTop, noSkip, notDistinct, noGroups⟩
  have permitted : settings.isAllowed plan.table = true := by
    rwa [ofTable, String.ofList_toList]
  have readAll := read (show IsItem "*".toList _ _ from isItem_all) ofAll
  have readColumn := read (isItem_column columnName notKeyword) ofColumn
  have readCount := read isItem_count ofCount
  refine ⟨(Direct.selected settings ids plan params m).map List.length, ?_⟩
  rintro s ⟨operations, start, reached⟩ rfl client
  have faithful : s.Faithful := reached ▸ Operation.runAll_faithful client operations start
  refine ⟨?_, ?_, ?_, ?_, ?_, ?_⟩
  · exact Client.count_eq faithful ofAll.accepted readAll permitted ids params
  · exact (whole _ _).size_select faithful ofAll.accepted readAll permitted rfl ids params
  · exact (whole _ _).size_select faithful ofColumn.accepted readColumn permitted rfl ids params
  · exact (whole _ _).length_valueList faithful ofColumn.accepted readColumn permitted columnName rfl
      rfl ids params
  · exact Client.singleValue_count faithful ofCount.accepted readCount permitted rfl ids params
  · exact (whole _ _).rows_select_count faithful ofCount.accepted readCount permitted rfl ids params

/-- One of three documents has a greater value than a parameter, and one that a document of another
table has as well. -/
theorem counts_agree_under_exists :
    let settings := { Settings.standard "localhost" "test" with allowedTables := some ["t", "u"] }
    let client : Client Memory := ⟨settings, Memory.store fun _ => .nil⟩
    let m : Memory := ⟨[("t", [⟨[("a", .int64 1)]⟩, ⟨[("a", .int64 2)]⟩, ⟨[("a", .int64 3)]⟩]),
      ("u", [⟨[("b", .int32 1)]⟩, ⟨[("b", .int32 2)]⟩])], 0⟩
    let condition := "a > @p AND EXISTS (SELECT 1 FROM u WHERE b = t.a)"
    let ws := words condition.toList
    let written (item : String) : String := "SELECT " ++ item ++ " FROM t WHERE " ++ condition
    (IsName "t" ∧ IsName "a" ∧
      (∀ word ∈ "DISTINCT" :: clauseStarts, ¬ Spells word.toList "a".toList) ∧
      (∀ w ∈ ws, IsWord w) ∧
      (∀ part ∈ outsideExists (unwords ws), ∀ word ∈ conditionStops, Lacks word part) ∧
      settings.isAllowed "t" = true ∧ IsItemSelect settings "*" "t" ws (written "*") ∧
      IsItemSelect settings "a" "t" ws (written "a") ∧
      IsItemSelect settings "COUNT(*)" "t" ws (written "COUNT(*)")) ∧
    ∀ s : Session Memory, (∃ operations start,
        Operation.runAll client operations (Session.start start) = s) → s.store = m →
      (client.select (written "a") [("p", .int64 1)] s).1.map (·.size) = .ok 1 ∧
        (client.singleValue (written "COUNT(*)") [("p", .int64 1)] s).1 = .ok (some (.int64 1)) := by
  intro settings client m condition ws written
  have tableName : IsName "t" := by decide
  have columnName : IsName "a" := by decide
  have notKeyword : ∀ word ∈ "DISTINCT" :: clauseStarts, ¬ Spells word.toList "a".toList := by
    decide +kernel
  have every : ∀ w ∈ ws, IsWord w := fun _ member => isWord_of_mem_words member
  -- letters stand for the texts, since the kernel takes long to decode a long text
  have letters : condition.toList = _ := String.toList_ofList
  have lettersOf (item : String) : (written item).toList =
      "SELECT ".toList ++ item.toList ++ " FROM t WHERE ".toList ++ condition.toList := by
    simp only [written, String.toList_append]
  have outside : ∀ part ∈ outsideExists (unwords ws), ∀ word ∈ conditionStops, Lacks word part := by
    simp only [ws, letters]
    decide +kernel
  have allowed : settings.isAllowed "t" = true := by decide +kernel
  have ofAll : IsItemSelect settings "*" "t" ws (written "*") := by
    simp only [isItemSelect_iff, checkStatement, ws, lettersOf, letters]
    decide +kernel
  have ofColumn : IsItemSelect settings "a" "t" ws (written "a") := by
    simp only [isItemSelect_iff, checkStatement, ws, lettersOf, letters]
    decide +kernel
  have ofCount : IsItemSelect settings "COUNT(*)" "t" ws (written "COUNT(*)") := by
    simp only [isItemSelect_iff, checkStatement, ws, lettersOf, letters]
    decide +kernel
  refine ⟨⟨tableName, columnName, notKeyword, every, outside, allowed, ofAll, ofColumn, ofCount⟩, ?_⟩
  obtain ⟨result, agree⟩ := @counts_agree settings (fun _ => .nil) _ _ _ _ _ _ tableName columnName
    notKeyword every outside allowed ofAll ofColumn ofCount [("p", .int64 1)] m
  let clause : ExistsClause := ⟨false, "u", "1", "b", "t", "a"⟩
  have read : extractSelect (cleanStatement (written "*")) =
      .ok ⟨"t", ["*"], some "a > @p", none, none, none, false, none, none, some clause⟩ := by
    rw [cleanStatement, lettersOf, letters, extractSelect, String.toList_ofList]
    decide +kernel
  have one : result = .ok 1 := by
    rw [← (agree (Session.start m) ⟨[], m, rfl⟩ rfl).1,
      Client.count_eq (Session.faithful_start m) ofAll.accepted read allowed]
    decide +kernel
  intro s reached holds
  obtain ⟨-, -, rows, -, number, -⟩ := agree s reached holds
  exact ⟨rows.trans one, number.trans (by rw [one]; rfl)⟩

end DocQuery

import DocQuery.Proofs.Client.Counting
import DocQuery.Proofs.Client.ExistsMembership

/-! # EXISTS over nothing

When no document of the inner table has a value, an EXISTS clause asks for an identifier that no
document is given. A document can have it all the same, since identifiers can be written like other
values; it is selected then. Without such documents every reading call finds nothing.

* `Document.HasReservedId` — the documents that are selected.
* `Direct.selected_of_no_values` — what a SELECT selects when there are no inner values.
* `Direct.run_select_nothing`, … — what the calls tell when nothing is selected.
* `exists_over_nothing` — the calls with such an EXISTS clause.
* `reserved_identifier_is_selected` — a document that is selected.
-/

namespace DocQuery

/-! ## The reserved identifier -/

/-- The identifier of a document is the one that no document is given, or lists it. -/
def Document.HasReservedId (doc : Document) : Prop :=
  doc.id? = some (.objectId .nil) ∨
    ∃ items, doc.id? = some (.array items) ∧ Value.objectId .nil ∈ items

theorem Value.looseEq_objectId {value : Value} {id : ObjectId} :
    value.looseEq (.objectId id) = true ↔ value = .objectId id := by
  cases value <;> simp [looseEq, isNumber, same]

theorem Document.hasReservedId_iff {doc : Document} : doc.HasReservedId ↔
    fieldEquals (doc.getPath? idField) (.objectId .nil) = true := by
  rw [getPath?_eq_get? (by decide), ← id?, HasReservedId]
  cases doc.id? with
  | none => simp [fieldEquals, Value.isNull]
  | some value =>
    cases value <;> simp [fieldEquals, Value.isArray, Value.looseEq_objectId]

instance : DecidablePred Document.HasReservedId :=
  fun _ => decidable_of_iff _ Document.hasReservedId_iff.symm

theorem SelectPlan.test_existsFilter_nothing {clause : ExistsClause}
    (positive : clause.negated = false) (doc : Document) :
    (existsFilter clause []).test doc = .ok (decide doc.HasReservedId) := by
  have test : (existsFilter clause []).test doc =
      .ok (fieldEquals (doc.getPath? idField) (.objectId .nil)) := by
    rw [existsFilter, positive]
    rfl
  rw [test, Except.ok.injEq, Bool.eq_iff_iff, decide_eq_true_eq, Document.hasReservedId_iff]

/-! ## What is selected -/

namespace Direct

open DirectCall MonadExcept

variable {settings : Settings} {ids : IdSupply} {sql : String} {plan : SelectPlan}
  {clause : ExistsClause} {params : Parameters} {m : Memory} {filter : Filter}

/-- Without inner values, what satisfies the condition is selected if it has the reserved
identifier. -/
theorem selected_of_no_values (found : plan.exists_ = some clause)
    (positive : clause.negated = false) (readable : clause.IsReadable)
    (allowed : settings.isAllowed clause.table = true) (noValues : clause.innerValues m = [])
    (compiled : plan.whereFilter params = .ok filter) :
    selected settings ids plan params m =
      ((Memory.ofQuery (filter.select (m.documents plan.table))).mapError SqlError.store).map
        (·.filter (·.HasReservedId)) := by
  have nothing : Client.distinctValues clause.innerField (m.documents clause.table) = [] := by
    change (clause.innerValues m).foldl Client.addDistinct [] = []
    rw [noValues]
    rfl
  have values : (planExistsValues ⟨settings, Memory.store ids⟩ plan).run m = (.ok [], m) := by
    rw [planExistsValues, found]
    exact nothing ▸ run_existsValues ids readable allowed m
  -- the clause becomes one more condition, on the identifier
  have folded : plan.selectFilter params [] =
      .ok (filter.both (SelectPlan.existsFilter clause [])) := by
    rw [SelectPlan.selectFilter, compiled, found]
    rfl
  have resolved : (resolvedFilter ⟨settings, Memory.store ids⟩ plan params).run m =
      (.ok (filter.both (SelectPlan.existsFilter clause [])), m) := by
    rw [resolvedFilter, run_bind_ok values]
    exact run_ofExcept folded m
  rw [selected, resolved, ← Memory.ofQuery_map,
    ← Filter.select_both (SelectPlan.test_existsFilter_nothing positive)]
  rfl

/-! ## Calls that find nothing -/

/-- A call that answers the same with every filter that selects nothing. -/
theorem run_resolvedFilter_nothing {β : Type} {step : Filter → DirectCall Memory β} {b : β}
    (nothing : selected settings ids plan params m = .ok [])
    (answers : ∀ filter, filter.select (m.documents plan.table) = .ok [] →
      (step filter).run m = (.ok b, m)) :
    (resolvedFilter ⟨settings, Memory.store ids⟩ plan params >>= step).run m = (.ok b, m) := by
  have quiet := quiet_resolvedFilter settings ids plan params m
  rcases outcome : (resolvedFilter ⟨settings, Memory.store ids⟩ plan params).run m with
    ⟨result, after⟩
  rw [outcome] at quiet
  obtain rfl : after = m := quiet
  rw [selected, outcome] at nothing
  cases result with
  | error e => cases nothing
  | ok filter =>
    rw [run_bind_ok outcome]
    refine answers filter ?_
    change (Memory.ofQuery (filter.select (after.documents plan.table))).mapError _ = _ at nothing
    cases picked : filter.select (after.documents plan.table) with
    | error e => rw [picked] at nothing; cases nothing
    | ok docs => rw [picked] at nothing; cases nothing; rfl

/-- A query whose filter selects nothing finds nothing, whatever its order, window and projection. -/
theorem run_find_nothing {query : FindQuery}
    (nothing : query.filter.select (m.documents plan.table) = .ok []) :
    (ask ((Memory.store ids).find plan.table query)).run m = (.ok [], m) := by
  have empty : query.run (m.documents plan.table) = .ok [] := by
    rw [FindQuery.run, nothing]
    obtain ⟨filter, projection, sort, skip, limit⟩ := query
    cases projection <;> cases sort <;> cases limit <;>
      simp [bind, Except.bind, pure, Except.pure, window, sortDocuments]
  rw [run_ask_query (rfl : (Memory.store ids).find plan.table query m =
    (Memory.ofQuery (query.run (m.documents plan.table)), m)), empty]
  rfl

theorem run_scalar_nothing {label : String} {outputs : List (String × Accumulator)}
    (nothing : filter.select (m.documents plan.table) = .ok []) (isCount : Bool) :
    (runScalar ⟨settings, Memory.store ids⟩ plan.table
      [.select filter, .group .constant outputs] label isCount).run m =
      (.ok (if isCount then .int64 0 else .null), m) := by
  have noGroups : Pipeline.run [.select filter, .group .constant outputs]
      (m.documents plan.table) = .ok [] := by
    rw [Pipeline.run, Stage.run, nothing]
    rfl
  have asked : (ask ((Memory.store ids).aggregate plan.table
      [.select filter, .group .constant outputs])).run m = (.ok [], m) := by
    rw [run_ask_query (rfl : (Memory.store ids).aggregate plan.table
      [.select filter, .group .constant outputs] m =
        (Memory.ofQuery (Pipeline.run _ (m.documents plan.table)), m)), noGroups]
    rfl
  rw [runScalar, run_bind_ok asked]
  rfl

variable (accepted : checkStatement settings.forbidCastSort sql = .ok ())
  (read : extractSelect (cleanStatement sql) = .ok plan)
  (allowed : settings.isAllowed plan.table = true)
  (nothing : selected settings ids plan params m = .ok [])

include accepted read allowed nothing

theorem run_select_nothing {keys : Option SortKeys} (found : plan.exists_ = some clause)
    (noCall : plan.aggregate = none) (order : plan.order id = .ok keys) :
    (select ⟨settings, Memory.store ids⟩ sql params).run m = (.ok ⟨[], []⟩, m) := by
  rw [select, run_prepareSelect accepted read allowed, planExistsValues_bind]
  refine run_resolvedFilter_nothing nothing fun filter empty => ?_
  obtain ⟨projection, -, planned⟩ := plan.findQuery_eq order filter
  have query : plan.planWith params filter =
      .ok (.find ⟨filter, projection, keys, plan.offset, plan.top⟩) := by
    simp [SelectPlan.planWith, SelectPlan.strategy, found, noCall, planned, Except.map]
  rw [run_bind_ok (run_ofExcept query m), runPlan, run_bind_ok (run_find_nothing empty)]
  rfl

theorem run_selectCall_nothing {call : AggregateCall} (found : plan.exists_ = some clause)
    (isCall : plan.aggregate = some call) :
    (select ⟨settings, Memory.store ids⟩ sql params).run m =
      (.ok ⟨[call.label], [[if call.isCount then .int64 0 else .null]]⟩, m) := by
  rw [select, run_prepareSelect accepted read allowed, planExistsValues_bind]
  refine run_resolvedFilter_nothing nothing fun filter empty => ?_
  have query : plan.planWith params filter = .ok (.scalar
      [.select filter, .group .constant [(call.label, SelectPlan.accumulator call)]] call.label) := by
    simp [SelectPlan.planWith, SelectPlan.strategy, found, isCall, SelectPlan.scalarPipeline,
      Except.map]
  rw [run_bind_ok (run_ofExcept query m), runPlan, isCall]
  refine (run_bind_pure (run_bind_pure (run_scalar_nothing empty call.isCount)
    fun value => [Document.empty.insert call.label value]) ResultTable.ofDocuments).trans ?_
  -- the value of the call, with no group behind it, is still shown in a row
  have row : ResultTable.ofDocuments
      ([if call.isCount then Value.int64 0 else .null].map (Document.single call.label)) = _ :=
    ofDocuments_single (by cases call.isCount <;> simp [Value.isObject])
  exact congrArg (fun table => (Except.ok table, m)) row

theorem run_valueList_nothing {column : String} {keys : Option SortKeys}
    (single : Client.singleColumn plan = .ok column) (order : plan.order id = .ok keys) :
    (valueList ⟨settings, Memory.store ids⟩ sql params).run m = (.ok [], m) := by
  rw [valueList, run_prepareSelect accepted read allowed, run_bind_ok (run_ofExcept single m)]
  refine run_resolvedFilter_nothing nothing fun filter empty => ?_
  obtain ⟨projection, -, planned⟩ := plan.findQuery_eq order filter
  rw [run_bind_ok (run_ofExcept planned m), run_bind_ok (run_find_nothing empty)]
  cases plan.distinct <;> rfl

theorem run_singleValue_nothing {column : String}
    (single : Client.singleColumn plan = .ok column) :
    (singleValue ⟨settings, Memory.store ids⟩ sql params).run m = (.ok none, m) := by
  have noCall : plan.aggregate = none := by
    unfold Client.singleColumn at single
    split at single
    · split at single
      · rename_i plain
        simpa using (Bool.and_eq_true_iff.mp plain).2
      · cases single
    · cases single
  rw [singleValue, run_prepareSelect accepted read allowed]
  refine run_resolvedFilter_nothing nothing fun filter empty => ?_
  rw [noCall]
  change (ofExcept (Client.singleColumn plan) >>= _ : DirectCall Memory (Option Value)).run m = _
  rw [run_bind_ok (run_ofExcept single m), run_bind_ok (run_find_nothing empty)]
  rfl

end Direct

open Direct in
/-- In every session that a client of a store in memory can reach, take a SELECT with an EXISTS
clause, for which no document of the inner table has a value other than null at the inner column.
Of the documents that satisfy its condition those count that have the reserved identifier. If there
are none of them, no row is selected, a call selects one row with the count zero or null, and there
is no value, neither in the list nor by itself. -/
theorem exists_over_nothing {settings : Settings} {ids : IdSupply} {s : Session Memory}
    (reached : ∃ operations start,
      Operation.runAll ⟨settings, Memory.store ids⟩ operations (Session.start start) = s)
    {sql : String} {plan : SelectPlan} {clause : ExistsClause} {params : Parameters}
    {filter : Filter} {satisfying : List Document}
    (accepted : checkStatement settings.forbidCastSort sql = .ok ())
    (read : extractSelect (cleanStatement sql) = .ok plan) (isExists : plan.exists_ = some clause)
    (positive : clause.negated = false)
    (notKeyword : ∀ word ∈ ["FROM", "WHERE", "DISTINCT"],
      ¬ Text.Spells word.toList clause.innerField.toList)
    (allowed : settings.isAllowed plan.table = true)
    (innerAllowed : settings.isAllowed clause.table = true)
    (noValues : clause.innerValues s.store = [])
    (compiled : plan.whereFilter params = .ok filter)
    (tested : filter.select (s.store.documents plan.table) = .ok satisfying) :
    let client : Client Memory := ⟨settings, Memory.store ids⟩
    (client.count sql params s).1 = .ok (satisfying.filter (·.HasReservedId)).length ∧
      ((∀ doc ∈ satisfying, ¬ doc.HasReservedId) →
        (∀ keys, plan.aggregate = none → plan.order id = .ok keys →
          (client.select sql params s).1 = .ok ⟨[], []⟩) ∧
        (∀ call, plan.aggregate = some call → (client.select sql params s).1 =
          .ok ⟨[call.label], [[if call.isCount then .int64 0 else .null]]⟩) ∧
        (∀ column keys, Client.singleColumn plan = .ok column → plan.order id = .ok keys →
          (client.valueList sql params s).1 = .ok []) ∧
        (∀ column, Client.singleColumn plan = .ok column →
          (client.singleValue sql params s).1 = .ok none)) := by
  intro client
  obtain ⟨operations, start, rfl⟩ := reached
  have faithful := Operation.runAll_faithful client operations start
  have readable := isReadable_of_extractSelect read isExists notKeyword
  have kept : selected settings ids plan params _ = _ :=
    selected_of_no_values isExists positive readable innerAllowed noValues compiled
  rw [tested] at kept
  refine ⟨?_, fun ordinary => ?_⟩
  · rw [Client.count_eq faithful accepted read allowed ids params, kept]
    rfl
  · have none_ : satisfying.filter (·.HasReservedId) = [] := by
      simpa [List.filter_eq_nil_iff] using ordinary
    have nothing : selected settings ids plan params _ = .ok [] :=
      kept.trans (congrArg Except.ok none_)
    refine ⟨fun keys noCall order => ?_, fun call isCall => ?_, fun column keys single order => ?_,
      fun column single => ?_⟩
    · exact (Client.agrees_select fun _ => rfl).answer_eq faithful
        (run_select_nothing accepted read allowed nothing isExists noCall order)
    · exact (Client.agrees_select fun _ => rfl).answer_eq faithful
        (run_selectCall_nothing accepted read allowed nothing isExists isCall)
    · exact (Client.agrees_valueList fun _ => rfl).answer_eq faithful
        (run_valueList_nothing accepted read allowed nothing single order)
    · exact (Client.agrees_singleValue fun _ => rfl).answer_eq faithful
        (run_singleValue_nothing accepted read allowed nothing single)

/-! ## A document with the reserved identifier -/

namespace ExistsClause

/-- Asks `table2` for the value of `a`. -/
def ofA : ExistsClause := ⟨false, "table2", "b", "b", "table1", "a"⟩

/-- One document in `table1` with the given identifier, and one in `table2` with Null. -/
def outer (id : Value) : Memory :=
  ⟨[("table1", [⟨[("_id", id), ("a", .int64 1)]⟩]), ("table2", [⟨[("b", .null)]⟩])], 0⟩

def statement : String :=
  "SELECT * FROM table1 WHERE EXISTS (SELECT b FROM table2 WHERE b = table1.a)"

def plan : SelectPlan :=
  ⟨"table1", ["*"], none, none, none, none, false, none, none, some ofA⟩

-- letters stand for the text, since the kernel takes long to decode a long text
theorem accepted_statement : checkStatement true statement = .ok () := by
  have letters : statement.toList = _ := String.toList_ofList
  rw [checkStatement, letters]
  decide +kernel

theorem read_statement : extractSelect (cleanStatement statement) = .ok plan := by
  have letters : statement.toList = _ := String.toList_ofList
  rw [cleanStatement, letters, extractSelect, String.toList_ofList]
  decide +kernel

theorem innerValues_outer (id : Value) : ofA.innerValues (outer id) = [] := by rfl

end ExistsClause

/-- A client with the standard settings. -/
def Client.standard : Client Memory := ⟨.standard "localhost" "test", Memory.store fun _ => .nil⟩

open ExistsClause in
/-- A document with an identifier of its own is neither counted nor selected. -/
theorem exists_over_nothing_of_ordinary :
    let s : Session Memory := Session.start (outer (.int64 1))
    (checkStatement Client.standard.settings.forbidCastSort statement = .ok () ∧
      extractSelect (cleanStatement statement) = .ok plan ∧ ofA.innerValues s.store = []) ∧
    (Client.standard.count statement [] s).1 = .ok 0 ∧
      (Client.standard.select statement [] s).1 = .ok ⟨[], []⟩ := by
  intro s
  have accepted : checkStatement Client.standard.settings.forbidCastSort statement = .ok () :=
    accepted_statement
  have tested : Filter.empty.select (s.store.documents plan.table) =
      .ok [⟨[("_id", .int64 1), ("a", .int64 1)]⟩] := rfl
  have reached : ∃ operations start, Operation.runAll
      ⟨Client.standard.settings, Memory.store fun _ => .nil⟩ operations (Session.start start) = s :=
    ⟨[], _, rfl⟩
  have isExists : plan.exists_ = some ofA := rfl
  have compiled : plan.whereFilter [] = .ok .empty := rfl
  obtain ⟨count, nothing⟩ := exists_over_nothing reached accepted read_statement isExists rfl
    (by decide) (by decide) (by decide) (innerValues_outer _) compiled tested
  have ordinary : ¬ Document.HasReservedId ⟨[("_id", .int64 1), ("a", .int64 1)]⟩ := by decide
  obtain ⟨selects, -⟩ := nothing (by simpa using ordinary)
  refine ⟨⟨accepted, read_statement, innerValues_outer _⟩, count.trans ?_, selects none rfl rfl⟩
  rw [List.filter_cons_of_neg (by simpa using ordinary)]
  rfl

open ExistsClause in
/-- An EXISTS clause does not select nothing whenever there are no inner values. -/
theorem reserved_identifier_is_selected :
    ¬ ∀ (m : Memory) (sql : String) (plan : SelectPlan) (clause : ExistsClause),
      checkStatement Client.standard.settings.forbidCastSort sql = .ok () →
      extractSelect (cleanStatement sql) = .ok plan → plan.exists_ = some clause →
      clause.negated = false → clause.innerValues m = [] →
      Client.standard.settings.isAllowed plan.table = true →
      Client.standard.settings.isAllowed clause.table = true →
      (Client.standard.count sql [] (Session.start m)).1 = .ok 0 := by
  intro nothing
  have accepted : checkStatement Client.standard.settings.forbidCastSort statement = .ok () :=
    accepted_statement
  have isExists : plan.exists_ = some ofA := rfl
  have allowed : Client.standard.settings.isAllowed plan.table = true := by decide
  have none_ := nothing (outer (.objectId .nil)) statement plan ofA accepted
    read_statement isExists rfl (innerValues_outer _) allowed (by decide)
  have selected : Direct.selected Client.standard.settings (fun _ => .nil) plan []
      (outer (.objectId .nil)) = .ok [⟨[("_id", .objectId .nil), ("a", .int64 1)]⟩] := by
    rw [Direct.selected_of_no_values isExists rfl
      (isReadable_of_extractSelect read_statement isExists (by decide)) (by decide)
      (innerValues_outer _) (rfl : plan.whereFilter [] = .ok .empty)]
    rfl
  have one := Client.count_eq (Session.faithful_start (outer (.objectId .nil)))
    accepted read_statement allowed (fun _ => .nil) []
  rw [Session.start, selected] at one
  cases none_.symm.trans one

end DocQuery

import DocQuery.Proofs.Client.InvisibleCaches
import DocQuery.Proofs.Query.DistinctColumn

/-! # The documents of a SELECT

The calls that read with a SELECT make one filter of its conditions, and each has a query of its own
for it. Over a store in memory all of them fail alike, or tell something of the same documents.

* `DirectCall.Quiet` — a step that leaves the store as it is.
* `Direct.selected` — the documents that the conditions of a SELECT select.
* `Direct.run_count`, `Direct.run_select_find`, `Direct.run_select_count`,
  `Direct.run_singleValue_count`, `Direct.run_singleValue_column`, `Direct.run_valueList` — what the
  calls tell of them.
-/

namespace DocQuery

/-! ## Steps -/

namespace DirectCall

variable {σ α β : Type}

theorem run_bind_pure {first : DirectCall σ α} {result : Except SqlError α} {store after : σ}
    (ran : first.run store = (result, after)) (f : α → β) :
    (first >>= fun a => pure (f a)).run store = (result.map f, after) := by
  rw [run_bind, ran]
  cases result <;> rfl

/-- A query of the store in memory leaves it as it is. -/
theorem run_ask_query {step : StoreStep Memory α} {result : Except QueryError α} {m : Memory}
    (asked : step m = (Memory.ofQuery result, m)) :
    (ask step).run m = ((Memory.ofQuery result).mapError SqlError.store, m) := by
  rw [run_ask, asked]
  cases result <;> rfl

/-- The store is afterwards as it was before. -/
def Quiet (call : DirectCall σ α) : Prop := ∀ store, (call.run store).2 = store

theorem quiet_pure (a : α) : Quiet (pure a : DirectCall σ α) := fun _ => rfl

theorem quiet_ofExcept (result : Except SqlError α) :
    Quiet (MonadExcept.ofExcept result : DirectCall σ α) := by
  intro store
  cases result <;> rfl

theorem quiet_ask {step : StoreStep σ α} (kept : ∀ store, (step store).2 = store) :
    Quiet (ask step) := by
  intro store
  have same := kept store
  rw [run_ask]
  split <;> simpa [*] using same

theorem quiet_checkTable (settings : Settings) (table : String) :
    Quiet (checkTable settings table : DirectCall σ Unit) := by
  unfold checkTable
  split
  · exact quiet_pure ()
  · exact fun _ => rfl

theorem quiet_bind {first : DirectCall σ α} {next : α → DirectCall σ β} (start : Quiet first)
    (goesOn : ∀ a, Quiet (next a)) : Quiet (first >>= next) := by
  intro store
  have same := start store
  rw [run_bind]
  split
  · rename_i a after ran
    rw [ran] at same
    exact (goesOn a after).trans same
  · rename_i e after ran
    rwa [ran] at same

end DirectCall

theorem Memory.ofQuery_map {α β : Type} (f : α → β) (result : Except QueryError α) :
    (ofQuery (result.map f)).mapError SqlError.store =
      ((ofQuery result).mapError SqlError.store).map f := by
  cases result <;> rfl

/-! ## Commands -/

namespace SelectPlan

variable {plan : SelectPlan} {params : Parameters} {filter : Filter} {keys : Option SortKeys}
  {column label : String}

/-- The documents that the WHERE clause selects. -/
def found (plan : SelectPlan) (params : Parameters) (docs : List Document) :
    Except SqlError (List Document) := do
  let filter ← plan.whereFilter params
  (Memory.ofQuery (filter.select docs)).mapError SqlError.store

theorem selectFilter_eq_whereFilter (noExists : plan.exists_ = none) (values : List Value) :
    plan.selectFilter params values = plan.whereFilter params := by
  rw [selectFilter, noExists]
  cases plan.whereFilter params <;> rfl

/-- What a find query keeps of its documents. -/
def shown (plan : SelectPlan) : Document → Document :=
  if plan.isWildcard then id else (plan.plainFields.foldl Projection.include_ .empty).apply

theorem findQuery_eq (order : plan.order id = .ok keys) (filter : Filter) :
    ∃ projection : Option Projection, projection.elim id Projection.apply = plan.shown ∧
      plan.findQuery filter = .ok ⟨filter, projection, keys, plan.offset, plan.top⟩ := by
  rw [findQuery, order, shown]
  refine ⟨_, ?_, rfl⟩
  split <;> rfl

/-- Without groups and DISTINCT a SELECT is a find query, or the pipeline of its call. -/
theorem planWith_eq (noGroups : plan.groupBy = none) (notDistinct : plan.distinct = false) :
    plan.planWith params filter =
      if plan.aggregate.isSome then
        (plan.scalarPipeline filter).map fun (stages, label) => .scalar stages label
      else (plan.findQuery filter).map .find := by
  cases clause : plan.exists_ <;> cases call : plan.aggregate <;>
    simp [planWith, strategy, noGroups, notDistinct, clause, call]

theorem singleColumn_eq (name : IsName column) (fields : plan.fields = [column])
    (noCall : plan.aggregate = none) : Client.singleColumn plan = .ok column := by
  simp [Client.singleColumn, fields, noCall, name.ne_star]

end SelectPlan

/-! ## Counting in a pipeline -/

theorem run_countStages (label : String) (filter : Filter) (docs : List Document) :
    Pipeline.run [.select filter, .group .constant [(label, .count)]] docs =
      (filter.select docs).map (groupDocuments .constant [(label, .count)]) := by
  rw [Pipeline.run, Stage.run]
  cases filter.select docs <;> rfl

/-- Without documents there is no group, and else there is one that has their number. -/
theorem count_of_groups (label : String) (docs : List Document) :
    ((groupDocuments .constant [(label, .count)] docs).head?.bind (·.get? label)).getD (.int64 0) =
      .int64 (Int64.ofNat docs.length) := by
  have groups := map_get?_groupDocuments_constant label .count docs
  rcases docs with _ | ⟨first, rest⟩
  · rfl
  · rw [if_neg (List.cons_ne_nil first rest)] at groups
    obtain ⟨group, single, found⟩ := List.map_eq_singleton_iff.mp groups
    rw [single, List.head?_cons, Option.bind_some, found, Accumulator.summary_count]
    rfl

/-! ## The direct client -/

namespace Direct

open DirectCall MonadExcept

variable {settings : Settings} {ids : IdSupply} {sql : String} {plan : SelectPlan}
  {column label : String} {keys : Option SortKeys} {params : Parameters} {m : Memory}

theorem quiet_resolvedFilter (settings : Settings) (ids : IdSupply) (plan : SelectPlan)
    (params : Parameters) :
    Quiet (resolvedFilter ⟨settings, Memory.store ids⟩ plan params) := by
  refine quiet_bind ?_ fun _ => quiet_ofExcept _
  unfold planExistsValues
  split
  · refine quiet_bind (quiet_ofExcept _) fun inner => quiet_bind (quiet_checkTable _ _) fun _ => ?_
    exact quiet_bind (quiet_ofExcept _) fun _ => quiet_bind (quiet_ask fun _ => rfl) fun _ =>
      quiet_pure _
  · exact quiet_pure _

/-- The documents that the conditions of a SELECT select, in the order of the store. -/
def selected (settings : Settings) (ids : IdSupply) (plan : SelectPlan) (params : Parameters)
    (m : Memory) : Except SqlError (List Document) := do
  let filter ← ((resolvedFilter ⟨settings, Memory.store ids⟩ plan params).run m).1
  (Memory.ofQuery (filter.select (m.documents plan.table))).mapError SqlError.store

/-- Without an EXISTS clause the WHERE clause alone selects. -/
theorem selected_eq_found (noExists : plan.exists_ = none) :
    selected settings ids plan params m = plan.found params (m.documents plan.table) := by
  have noValues : (planExistsValues ⟨settings, Memory.store ids⟩ plan).run m = (.ok [], m) := by
    rw [planExistsValues, noExists]
    rfl
  have resolved : (resolvedFilter ⟨settings, Memory.store ids⟩ plan params).run m =
      (plan.whereFilter params, m) := by
    rw [resolvedFilter, run_bind_ok noValues, SelectPlan.selectFilter_eq_whereFilter noExists]
    cases plan.whereFilter params <;> rfl
  rw [selected, resolved]
  rfl

/-- A call that asks for something of the selected documents. -/
theorem run_resolvedFilter_bind {β : Type} {step : Filter → DirectCall Memory β}
    {f : List Document → β}
    (asks : ∀ filter, (step filter).run m =
      (((Memory.ofQuery (filter.select (m.documents plan.table))).mapError SqlError.store).map f,
        m)) :
    (resolvedFilter ⟨settings, Memory.store ids⟩ plan params >>= step).run m =
      ((selected settings ids plan params m).map f, m) := by
  have quiet := quiet_resolvedFilter settings ids plan params m
  rw [run_bind, selected]
  rcases outcome : (resolvedFilter ⟨settings, Memory.store ids⟩ plan params).run m with
    ⟨filter | e, after⟩
  · rw [outcome] at quiet
    obtain rfl : after = m := quiet
    rfl
  · rw [outcome] at quiet
    obtain rfl : after = m := quiet
    exact asks e

theorem run_prepareSelect {α : Type} (accepted : checkStatement settings.forbidCastSort sql = .ok ())
    (read : extractSelect (cleanStatement sql) = .ok plan)
    (allowed : settings.isAllowed plan.table = true) (next : SelectPlan → DirectCall Memory α) :
    (run ⟨settings, Memory.store ids⟩ sql fun text =>
      prepareSelect ⟨settings, Memory.store ids⟩ text >>= next).run m = (next plan).run m := by
  have checked := run_checkTable allowed m
  have prepared : (prepareSelect ⟨settings, Memory.store ids⟩ (cleanStatement sql)).run m =
      (.ok plan, m) := by
    rw [prepareSelect, run_bind_ok (run_ofExcept read m), run_bind_ok checked]
    rfl
  rw [run, run_bind_ok (run_ofExcept accepted m), run_bind_ok prepared]

/-- The command of a SELECT has the filter that the other calls have. -/
theorem planExistsValues_bind {α : Type} (client : Client Memory) (plan : SelectPlan)
    (params : Parameters) (next : QueryPlan → DirectCall Memory α) :
    (planExistsValues client plan >>= fun values =>
        ofExcept (plan.planSelect params values) >>= next) =
      resolvedFilter client plan params >>= fun filter =>
        ofExcept (plan.planWith params filter) >>= next := by
  rw [resolvedFilter, bind_assoc]
  congr 1
  funext values
  rw [SelectPlan.planSelect]
  cases plan.selectFilter params values <;> rfl

theorem run_countScalar (ids : IdSupply) (table label : String) (filter : Filter) (m : Memory) :
    (runScalar ⟨settings, Memory.store ids⟩ table
      [.select filter, .group .constant [(label, .count)]] label true).run m =
      (((Memory.ofQuery (filter.select (m.documents table))).mapError SqlError.store).map
        fun docs => .int64 (Int64.ofNat docs.length), m) := by
  have asked : (ask ((Memory.store ids).aggregate table
      [.select filter, .group .constant [(label, .count)]])).run m =
      ((Memory.ofQuery (Pipeline.run [.select filter, .group .constant [(label, .count)]]
        (m.documents table))).mapError .store, m) :=
    run_ask_query rfl
  rw [run_countStages, Memory.ofQuery_map] at asked
  refine (run_bind_pure asked fun docs =>
    (docs.head?.bind (·.get? label)).getD (Value.int64 0)).trans ?_
  cases (Memory.ofQuery (filter.select (m.documents table))).mapError SqlError.store with
  | error e => rfl
  | ok docs => exact congrArg (fun value => (Except.ok value, m)) (count_of_groups label docs)

variable (accepted : checkStatement settings.forbidCastSort sql = .ok ())
  (read : extractSelect (cleanStatement sql) = .ok plan)
  (allowed : settings.isAllowed plan.table = true)

include accepted read allowed

theorem run_count : (count ⟨settings, Memory.store ids⟩ sql params).run m =
    ((selected settings ids plan params m).map List.length, m) := by
  rw [count, run_prepareSelect accepted read allowed]
  refine run_resolvedFilter_bind fun filter => ?_
  rw [run_ask_query (by rfl : (Memory.store ids).countDocuments plan.table filter m =
    (Memory.ofQuery ((filter.select (m.documents plan.table)).map List.length), m)),
    Memory.ofQuery_map]

theorem run_select_find (top : plan.top ≠ some 0) (noCall : plan.aggregate = none)
    (noGroups : plan.groupBy = none) (notDistinct : plan.distinct = false)
    (order : plan.order id = .ok keys) :
    (select ⟨settings, Memory.store ids⟩ sql params).run m =
      ((selected settings ids plan params m).map fun docs =>
        .ofDocuments ((plan.page (arranged keys docs)).map plan.shown), m) := by
  rw [select, run_prepareSelect accepted read allowed, planExistsValues_bind]
  refine run_resolvedFilter_bind fun filter => ?_
  obtain ⟨projection, shown, planned⟩ := plan.findQuery_eq order filter
  have query : plan.planWith params filter =
      .ok (.find ⟨filter, projection, keys, plan.offset, plan.top⟩) := by
    rw [SelectPlan.planWith_eq noGroups notDistinct, noCall, planned]
    rfl
  have asked : (runPlan ⟨settings, Memory.store ids⟩ plan
      (.find ⟨filter, projection, keys, plan.offset, plan.top⟩)).run m =
      ((Memory.ofQuery (FindQuery.run ⟨filter, projection, keys, plan.offset, plan.top⟩
        (m.documents plan.table))).mapError .store, m) :=
    run_ask_query rfl
  rw [SelectPlan.run_find top, Memory.ofQuery_map, shown] at asked
  rw [run_bind_ok (run_ofExcept query m), run_bind_pure asked]
  cases (Memory.ofQuery (filter.select (m.documents plan.table))).mapError SqlError.store <;> rfl

theorem run_select_count (call : plan.aggregate = some (.count label))
    (noGroups : plan.groupBy = none) (notDistinct : plan.distinct = false) :
    (select ⟨settings, Memory.store ids⟩ sql params).run m =
      ((selected settings ids plan params m).map fun docs =>
        ⟨[label], [[.int64 (Int64.ofNat docs.length)]]⟩, m) := by
  rw [select, run_prepareSelect accepted read allowed, planExistsValues_bind]
  refine run_resolvedFilter_bind fun filter => ?_
  have query : plan.planWith params filter =
      .ok (.scalar [.select filter, .group .constant [(label, .count)]] label) := by
    rw [SelectPlan.planWith_eq noGroups notDistinct, SelectPlan.scalarPipeline, call]
    rfl
  have isCount : plan.aggregate.any (·.isCount) = true := by
    rw [call]
    rfl
  rw [run_bind_ok (run_ofExcept query m), runPlan, isCount]
  refine (run_bind_pure (run_bind_pure (run_countScalar ids plan.table label filter m)
    fun value => [Document.empty.insert label value]) ResultTable.ofDocuments).trans ?_
  cases (Memory.ofQuery (filter.select (m.documents plan.table))).mapError SqlError.store with
  | error e => rfl
  | ok docs =>
    have row : ResultTable.ofDocuments
        ([Value.int64 (Int64.ofNat docs.length)].map (Document.single label)) = _ :=
      ofDocuments_single (by simp [Value.isObject])
    exact congrArg (fun table => (Except.ok table, m)) row

theorem run_singleValue_count (call : plan.aggregate = some (.count label)) :
    (singleValue ⟨settings, Memory.store ids⟩ sql params).run m =
      ((selected settings ids plan params m).map fun docs =>
        some (.int64 (Int64.ofNat docs.length)), m) := by
  rw [singleValue, run_prepareSelect accepted read allowed]
  refine run_resolvedFilter_bind fun filter => ?_
  have asked : (ask ((Memory.store ids).countDocuments plan.table filter)).run m =
      ((Memory.ofQuery ((filter.select (m.documents plan.table)).map List.length)).mapError .store,
        m) := run_ask_query rfl
  rw [Memory.ofQuery_map] at asked
  rw [call]
  refine (run_bind_pure asked fun n => some (Value.int64 (Int64.ofNat n))).trans ?_
  cases (Memory.ofQuery (filter.select (m.documents plan.table))).mapError SqlError.store <;> rfl

/-- Order and window play no part in the single value. -/
theorem run_singleValue_column (name : IsName column) (fields : plan.fields = [column])
    (noCall : plan.aggregate = none) :
    (singleValue ⟨settings, Memory.store ids⟩ sql params).run m =
      ((selected settings ids plan params m).map fun docs =>
        Client.nonNull? (docs.head?.bind (·.getPath? column)), m) := by
  rw [singleValue, run_prepareSelect accepted read allowed]
  refine run_resolvedFilter_bind fun filter => ?_
  have asked : (ask ((Memory.store ids).find plan.table
      ⟨filter, some (Client.columnProjection column), none, none, some 1⟩)).run m =
      ((Memory.ofQuery (FindQuery.run ⟨filter, some (Client.columnProjection column), none, none,
        some 1⟩ (m.documents plan.table))).mapError .store, m) := run_ask_query rfl
  have first : FindQuery.run ⟨filter, some (Client.columnProjection column), none, none, some 1⟩
      (m.documents plan.table) = (filter.select (m.documents plan.table)).map fun docs =>
        (docs.take 1).map (Client.columnProjection column).apply := by
    rw [FindQuery.run]
    cases filter.select (m.documents plan.table) <;> rfl
  rw [first, Memory.ofQuery_map] at asked
  rw [noCall]
  change (ofExcept (Client.singleColumn plan) >>= _ : DirectCall Memory (Option Value)).run m = _
  rw [run_bind_ok (run_ofExcept (SelectPlan.singleColumn_eq name fields noCall) m),
    run_bind_pure asked]
  cases (Memory.ofQuery (filter.select (m.documents plan.table))).mapError SqlError.store with
  | error e => rfl
  | ok docs =>
    cases docs with
    | nil => rfl
    | cons doc rest =>
      exact congrArg (fun value => (Except.ok (Client.nonNull? value), m))
        (Client.getPath?_apply_columnProjection name.pointless name.ne_empty doc)

theorem run_valueList (top : plan.top ≠ some 0) (name : IsName column)
    (fields : plan.fields = [column]) (noCall : plan.aggregate = none)
    (order : plan.order id = .ok keys) :
    (valueList ⟨settings, Memory.store ids⟩ sql params).run m =
      ((selected settings ids plan params m).map fun docs =>
        let values := (plan.page (arranged keys docs)).map (·.groupValue column)
        if plan.distinct then distinct values else values, m) := by
  rw [valueList, run_prepareSelect accepted read allowed,
    run_bind_ok (run_ofExcept (SelectPlan.singleColumn_eq name fields noCall) m)]
  refine run_resolvedFilter_bind fun filter => ?_
  obtain ⟨projection, -, planned⟩ := plan.findQuery_eq order filter
  have asked : (ask ((Memory.store ids).find plan.table ⟨filter,
      some (Client.columnProjection column), keys, plan.offset, plan.top⟩)).run m =
      ((Memory.ofQuery (FindQuery.run ⟨filter, some (Client.columnProjection column), keys,
        plan.offset, plan.top⟩ (m.documents plan.table))).mapError .store, m) :=
    run_ask_query rfl
  rw [SelectPlan.run_find top, Memory.ofQuery_map] at asked
  rw [run_bind_ok (run_ofExcept planned m), run_bind_pure asked]
  have values (docs : List Document) :
      (docs.map (Client.columnProjection column).apply).map
        (fun doc => (doc.getPath? column).getD .null) = docs.map (·.groupValue column) := by
    rw [List.map_map]
    refine List.map_congr_left fun doc _ => ?_
    rw [Function.comp_apply, Client.getPath?_apply_columnProjection name.pointless name.ne_empty]
    rfl
  cases (Memory.ofQuery (filter.select (m.documents plan.table))).mapError SqlError.store with
  | error e => rfl
  | ok docs =>
    simp only [Except.map, Option.elim_some, values, foldl_addDistinct]

end Direct

/-! ## The row limit -/

namespace Select

theorem takeWindow_top {sql : String} {s text : List Char} {top skip : Option Nat}
    (taken : takeWindow sql s = .ok (top, skip, text)) : top ≠ some 0 := by
  unfold takeWindow at taken
  simp only [bind, Except.bind] at taken
  split at taken
  · cases taken
    simp
  · split at taken
    · cases taken
    · split at taken
      · cases taken
      · cases taken
        intro zero
        exact absurd (Option.filter_eq_some_iff.mp zero).2 (by decide)

end Select

/-- A row limit of zero is none. -/
theorem top_of_extractSelect {sql : String} {plan : SelectPlan}
    (read : extractSelect sql = .ok plan) : plan.top ≠ some 0 := by
  cases window : Select.takeWindow sql ((Text.clean sql.toList).take Select.maxLength) with
  | error e => simp [extractSelect, window, bind, Except.bind] at read
  | ok taken =>
    obtain ⟨top, skip, text⟩ := taken
    simp only [extractSelect, window, bind, Except.bind] at read
    split at read
    · split at read
      · split at read
        · cases read
        · cases read
          exact Select.takeWindow_top window
      · cases read
    · cases read

end DocQuery

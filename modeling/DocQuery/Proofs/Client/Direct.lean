import DocQuery.Proofs.Client.CachedPlans

/-! # The direct client

A client that remembers nothing between its steps: every statement is read anew whenever its plan
is needed, the inner statement of an EXISTS clause included, and the names of the collections are
never looked at. Its only state is that of the store.

* `DirectCall` — a step with a result or an error.
* `Direct.select`, `Direct.insert`, … — the calls of the direct client.
* `Direct.call`, `Direct.answers` — one operation, and what a whole run answers.
-/

namespace DocQuery

variable {σ α β : Type}

/-- A step of a client without memory: an answer or an error, and the store afterwards. -/
abbrev DirectCall (σ α : Type) := ExceptT SqlError (StateM σ) α

namespace DirectCall

def ask (step : StoreStep σ α) : DirectCall σ α := fun store =>
  match step store with
  | (.ok a, store) => (.ok a, store)
  | (.error e, store) => (.error (.store e), store)

def checkTable (settings : Settings) (table : String) : DirectCall σ Unit :=
  if settings.isAllowed table then pure () else throw (.tableNotAllowed table)

theorem run_bind (first : DirectCall σ α) (next : α → DirectCall σ β) (store : σ) :
    (first >>= next).run store =
      match first.run store with
      | (.ok a, store) => (next a).run store
      | (.error e, store) => (.error e, store) := by
  change (match first.run store with
    | (result, store) => ExceptT.bindCont next result store) = _
  rcases first.run store with ⟨_ | _, _⟩ <;> rfl

theorem run_bind_ok {first : DirectCall σ α} {a : α} {store after : σ}
    (succeeds : first.run store = (.ok a, after)) (next : α → DirectCall σ β) :
    (first >>= next).run store = (next a).run after := by
  rw [run_bind, succeeds]

theorem run_ofExcept {result : Except SqlError α} {a : α} (succeeds : result = .ok a)
    (store : σ) : (MonadExcept.ofExcept result : DirectCall σ α).run store = (.ok a, store) := by
  rw [succeeds]
  rfl

theorem run_checkTable {settings : Settings} {table : String}
    (allowed : settings.isAllowed table = true) (store : σ) :
    (checkTable settings table).run store = (.ok (), store) := by
  rw [checkTable, if_pos allowed]
  rfl

theorem run_ask (step : StoreStep σ α) (store : σ) :
    (ask step).run store =
      match step store with
      | (.ok a, store) => (.ok a, store)
      | (.error e, store) => (.error (.store e), store) := rfl

/-! What a step that succeeds has done. -/

theorem run_bind_eq_ok {first : DirectCall σ α} {next : α → DirectCall σ β} {b : β}
    {store after : σ} (ran : (first >>= next).run store = (.ok b, after)) :
    ∃ a middle, first.run store = (.ok a, middle) ∧ (next a).run middle = (.ok b, after) := by
  rw [run_bind] at ran
  split at ran
  · rename_i a middle outcome
    exact ⟨a, middle, outcome, ran⟩
  · cases ran

theorem run_ofExcept_bind_eq_ok {result : Except SqlError α} {next : α → DirectCall σ β} {b : β}
    {store after : σ}
    (ran : ((MonadExcept.ofExcept result : DirectCall σ α) >>= next).run store = (.ok b, after)) :
    ∃ a, result = .ok a ∧ (next a).run store = (.ok b, after) := by
  obtain ⟨a, middle, read, ran⟩ := run_bind_eq_ok ran
  cases result <;> cases read
  exact ⟨a, rfl, ran⟩

theorem run_checkTable_bind_eq_ok {settings : Settings} {table : String}
    {next : Unit → DirectCall σ β} {b : β} {store after : σ}
    (ran : (checkTable settings table >>= next).run store = (.ok b, after)) :
    settings.isAllowed table = true ∧ (next ()).run store = (.ok b, after) := by
  obtain ⟨_, middle, checked, ran⟩ := run_bind_eq_ok ran
  unfold checkTable at checked
  split at checked
  · rename_i allowed
    cases checked
    exact ⟨allowed, ran⟩
  · cases checked

theorem run_ask_eq_ok {step : StoreStep σ α} {a : α} {store after : σ}
    (ran : (ask step).run store = (.ok a, after)) : step store = (.ok a, after) := by
  rw [run_ask] at ran
  split at ran
  · rename_i a store' outcome
    rw [outcome]
    cases ran
    rfl
  · cases ran

end DirectCall

namespace Direct

open MonadExcept DirectCall

variable (client : Client σ)

/-! ## Steps -/

/-- Checks a statement and goes on with its clean form. -/
def run (sql : String) (next : String → DirectCall σ α) : DirectCall σ α := do
  ofExcept (checkStatement client.settings.forbidCastSort sql)
  next (cleanStatement sql)

def prepareSelect (text : String) : DirectCall σ SelectPlan := do
  let plan ← ofExcept (extractSelect text)
  checkTable client.settings plan.table
  return plan

def existsValues (clause : ExistsClause) : DirectCall σ (List Value) := do
  let inner ← ofExcept (extractSelect clause.innerStatement)
  checkTable client.settings inner.table
  let filter ← ofExcept (inner.whereFilter [])
  let query : FindQuery :=
    { FindQuery.ofFilter filter with
      projection := some (Client.columnProjection clause.innerField) }
  let docs ← ask (client.store.find inner.table query)
  return Client.distinctValues clause.innerField docs

def planExistsValues (plan : SelectPlan) : DirectCall σ (List Value) :=
  match plan.exists_ with
  | some clause => existsValues client clause
  | none => return []

def resolvedFilter (plan : SelectPlan) (params : Parameters) : DirectCall σ Filter := do
  let values ← planExistsValues client plan
  ofExcept (plan.selectFilter params values)

def runScalar (table : String) (stages : Pipeline) (label : String) (isCount : Bool) :
    DirectCall σ Value := do
  let docs ← ask (client.store.aggregate table stages)
  return (docs.head?.bind (·.get? label)).getD (if isCount then .int64 0 else .null)

def runPlan (plan : SelectPlan) (query : QueryPlan) : DirectCall σ (List Document) :=
  match query with
  | .find q => ask (client.store.find plan.table q)
  | .aggregate stages => ask (client.store.aggregate plan.table stages)
  | .scalar stages label => do
    let value ← runScalar client plan.table stages label (plan.aggregate.any (·.isCount))
    return [Document.empty.insert label value]

/-! ## Writing -/

def insert (sql : String) : DirectCall σ Nat :=
  run client sql fun text => do
    let plan ← ofExcept (extractInsert text)
    checkTable client.settings plan.table
    ask (client.store.insertMany plan.table (plan.rows.map (Client.rowDocument plan.columns)))

def update (sql : String) (params : Parameters) : DirectCall σ Nat :=
  run client sql fun text => do
    let plan ← ofExcept (extractUpdate text)
    checkTable client.settings plan.table
    let filter ← ofExcept (Client.whereFilter plan.predicate params)
    let set := plan.assignments.map fun (path, literal) => (path, literal.toValue)
    ask (client.store.updateMany plan.table filter set)

def delete (sql : String) (params : Parameters) : DirectCall σ Nat :=
  run client sql fun text => do
    let plan ← ofExcept (extractDelete text)
    checkTable client.settings plan.table
    let filter ← ofExcept (Client.whereFilter plan.predicate params)
    ask (client.store.deleteMany plan.table filter)

/-! ## Reading -/

def compileSelect (sql : String) : DirectCall σ SelectPlan :=
  run client sql (prepareSelect client)

def select (sql : String) (params : Parameters) : DirectCall σ ResultTable :=
  run client sql fun text => do
    let plan ← prepareSelect client text
    let values ← planExistsValues client plan
    let query ← ofExcept (plan.planSelect params values)
    return .ofDocuments (← runPlan client plan query)

def count (sql : String) (params : Parameters) : DirectCall σ Nat :=
  run client sql fun text => do
    let plan ← prepareSelect client text
    let filter ← resolvedFilter client plan params
    ask (client.store.countDocuments plan.table filter)

def singleValue (sql : String) (params : Parameters) : DirectCall σ (Option Value) :=
  run client sql fun text => do
    let plan ← prepareSelect client text
    let filter ← resolvedFilter client plan params
    match plan.aggregate with
    | some (.count _) =>
      let n ← ask (client.store.countDocuments plan.table filter)
      return some (.int64 (Int64.ofNat n))
    | some (.apply ..) =>
      let (stages, label) ← ofExcept (plan.scalarPipeline filter)
      return Client.nonNull? (some (← runScalar client plan.table stages label false))
    | none =>
      let column ← ofExcept (Client.singleColumn plan)
      let query : FindQuery :=
        ⟨filter, some (Client.columnProjection column), none, none, some 1⟩
      let docs ← ask (client.store.find plan.table query)
      return Client.nonNull? (docs.head?.bind (·.getPath? column))

def valueList (sql : String) (params : Parameters) : DirectCall σ (List Value) :=
  run client sql fun text => do
    let plan ← prepareSelect client text
    let column ← ofExcept (Client.singleColumn plan)
    let filter ← resolvedFilter client plan params
    let query ← ofExcept (plan.findQuery filter)
    let docs ← ask (client.store.find plan.table
      { query with projection := some (Client.columnProjection column) })
    let values := docs.map fun doc => (doc.getPath? column).getD .null
    return if plan.distinct then values.foldl Client.addDistinct [] else values

def scalar (sql : String) : DirectCall σ (Option Value) := do
  let table ← select client sql []
  return Client.nonNull? table.firstCell?

def scalarAs (sql : String) (convert : Value → Except SqlError α) :
    DirectCall σ (Option α) := do
  match ← scalar client sql with
  | some value => return some (← ofExcept (convert value))
  | none => return none

/-! ## Calls that succeed -/

variable {client} {sql : String} {params : Parameters} {store after : σ}

theorem run_eq_ok {next : String → DirectCall σ α} {a : α}
    (ran : (run client sql next).run store = (.ok a, after)) :
    checkStatement client.settings.forbidCastSort sql = .ok () ∧
      (next (cleanStatement sql)).run store = (.ok a, after) :=
  have ⟨_, checked, goesOn⟩ := run_ofExcept_bind_eq_ok ran
  ⟨checked, goesOn⟩

theorem insert_eq_ok {n : Nat} (ran : (insert client sql).run store = (.ok n, after)) :
    checkStatement client.settings.forbidCastSort sql = .ok () ∧
      ∃ plan, extractInsert (cleanStatement sql) = .ok plan ∧
        client.store.insertMany plan.table (plan.rows.map (Client.rowDocument plan.columns)) store =
          (.ok n, after) := by
  obtain ⟨checked, ran⟩ := run_eq_ok ran
  obtain ⟨plan, read, ran⟩ := run_ofExcept_bind_eq_ok ran
  obtain ⟨-, ran⟩ := run_checkTable_bind_eq_ok ran
  exact ⟨checked, plan, read, run_ask_eq_ok ran⟩

/-- An INSERT whose documents can be kept does what the store does. -/
theorem run_insert {plan : InsertPlan} {n : Nat}
    (accepted : checkStatement client.settings.forbidCastSort sql = .ok ())
    (read : extractInsert (cleanStatement sql) = .ok plan)
    (allowed : client.settings.isAllowed plan.table = true)
    (kept : client.store.insertMany plan.table (plan.rows.map (Client.rowDocument plan.columns))
      store = (.ok n, after)) : (insert client sql).run store = (.ok n, after) := by
  rw [insert, run, run_bind_ok (run_ofExcept accepted store), run_bind_ok (run_ofExcept read store),
    run_bind_ok (run_checkTable allowed store), run_ask, kept]

theorem prepareSelect_eq_ok {text : String} {plan : SelectPlan}
    (ran : (prepareSelect client text).run store = (.ok plan, after)) :
    extractSelect text = .ok plan ∧ client.settings.isAllowed plan.table = true ∧
      after = store := by
  obtain ⟨plan, read, ran⟩ := run_ofExcept_bind_eq_ok ran
  obtain ⟨allowed, ran⟩ := run_checkTable_bind_eq_ok ran
  cases ran
  exact ⟨read, allowed, rfl⟩

theorem select_eq_ok {rows : ResultTable}
    (ran : (select client sql params).run store = (.ok rows, after)) :
    ∃ plan values middle query docs, extractSelect (cleanStatement sql) = .ok plan ∧
      (planExistsValues client plan).run store = (.ok values, middle) ∧
      plan.planSelect params values = .ok query ∧
      (runPlan client plan query).run middle = (.ok docs, after) ∧ rows = .ofDocuments docs := by
  obtain ⟨-, ran⟩ := run_eq_ok ran
  obtain ⟨plan, start, prepared, goesOn⟩ := run_bind_eq_ok ran
  obtain ⟨read, -, rfl⟩ := prepareSelect_eq_ok prepared
  obtain ⟨values, middle, found, ran⟩ := run_bind_eq_ok goesOn
  obtain ⟨query, planned, ran⟩ := run_ofExcept_bind_eq_ok ran
  obtain ⟨docs, last, asked, result⟩ := run_bind_eq_ok ran
  cases result
  exact ⟨plan, values, middle, query, docs, read, found, planned, asked, rfl⟩

/-! ## Runs -/

variable (client)

/-- One operation; for a client without memory the clock and the clearing of caches do nothing. -/
def call : (operation : Operation) → DirectCall σ operation.Answer
  | .compileSelect sql => compileSelect client sql
  | .select sql params => select client sql params
  | .insert sql => insert client sql
  | .update sql params => update client sql params
  | .delete sql params => delete client sql params
  | .count sql params => count client sql params
  | .singleValue sql params => singleValue client sql params
  | .valueList sql params => valueList client sql params
  | .scalar sql => scalar client sql
  | .scalarAs sql convert => scalarAs client sql convert
  | .advance _ | .clearSelects => pure ()

end Direct

/-- An operation, its answer or error, and the store after it. -/
abbrev Operation.Outcome (σ : Type) := Σ operation : Operation, Except SqlError operation.Answer × σ

/-- What a run answers, operation by operation. -/
def Operation.answers (client : Client σ) : List Operation → Session σ → List (Operation.Outcome σ)
  | [], _ => []
  | operation :: rest, s =>
    let (answer, after) := operation.call client s
    ⟨operation, answer, after.store⟩ :: answers client rest after

/-- What a run of the direct client answers, operation by operation. -/
def Direct.answers (client : Client σ) : List Operation → σ → List (Operation.Outcome σ)
  | [], _ => []
  | operation :: rest, store =>
    let (answer, after) := (Direct.call client operation).run store
    ⟨operation, answer, after⟩ :: answers client rest after

end DocQuery

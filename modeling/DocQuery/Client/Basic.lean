import DocQuery.Client.Session
import DocQuery.Query.Plan
import DocQuery.Statement.Safety
import DocQuery.Table.Basic

/-! # The client

Statements are run against a store. Every call checks the statement, reads it, checks the table,
plans, and asks the store; the first of these steps that fails ends the call.

* `Client.insert`, `Client.update`, `Client.delete` — writing.
* `Client.compileSelect`, `Client.select`, `Client.count`, `Client.singleValue`,
  `Client.valueList`, `Client.scalar`, `Client.scalarAs` — reading.
* `Client.fail` — an error as the caller is shown it.
-/

namespace DocQuery.Client

variable {σ α : Type} (client : Client σ)

def fail (statement : String) (error : SqlError) : ClientError :=
  ⟨error, statement, client.settings.errorMode⟩

/-- Checks a statement and goes on with its clean form. -/
def run (sql : String) (next : String → Call σ α) : Call σ α := do
  Call.ofExcept (checkStatement client.settings.forbidCastSort sql)
  next (cleanStatement sql)

/-! ## Steps -/

def prepareSelect (text : String) : Call σ SelectPlan := do
  let plan ← Call.cachedPlan client .selects extractSelect text
  Call.checkTable client plan.table
  return plan

/-- The projection to one column, without the identifier unless it is that column. -/
def columnProjection (column : String) : Projection :=
  let projection := Projection.empty.include_ column
  if column == idField then projection else projection.exclude idField

/-- Adds a value to a list unless one in the list equals it. -/
def addDistinct (values : List Value) (value : Value) : List Value :=
  if values.any (·.looseEq value) then values else values ++ [value]

/-- The values at a path that are not null, each once, in the order they come in. -/
def distinctValues (path : String) (docs : List Document) : List Value :=
  ((docs.filterMap (·.getPath? path)).filter (!·.isNull)).foldl addDistinct []

def existsValues (clause : ExistsClause) : Call σ (List Value) := do
  -- the inner statement is read anew, and its table is checked under the name that it has there
  let inner ← Call.cachedPlan client .selects extractSelect clause.innerStatement
  Call.checkTable client inner.table
  -- parameters do not reach the inner statement
  let filter ← Call.ofExcept (inner.whereFilter [])
  let query : FindQuery :=
    { FindQuery.ofFilter filter with projection := some (columnProjection clause.innerField) }
  let docs ← Call.ask (client.store.find inner.table query)
  return distinctValues clause.innerField docs

/-- The values for the EXISTS clause of a SELECT, if it has one. -/
def planExistsValues (plan : SelectPlan) : Call σ (List Value) :=
  match plan.exists_ with
  | some clause => existsValues client clause
  | none => return []

def resolvedFilter (plan : SelectPlan) (params : Parameters) : Call σ Filter := do
  let values ← planExistsValues client plan
  Call.ofExcept (plan.selectFilter params values)

/-- Runs a pipeline with one result, which is read from a field. -/
def runScalar (table : String) (stages : Pipeline) (label : String) (isCount : Bool) :
    Call σ Value := do
  let docs ← Call.ask (client.store.aggregate table stages)
  -- without documents there is no group either
  return (docs.head?.bind (·.get? label)).getD (if isCount then .int64 0 else .null)

def runPlan (plan : SelectPlan) (query : QueryPlan) : Call σ (List Document) :=
  match query with
  | .find q => Call.ask (client.store.find plan.table q)
  | .aggregate stages => Call.ask (client.store.aggregate plan.table stages)
  | .scalar stages label => do
    let isCount := plan.aggregate.any (·.isCount)
    let value ← runScalar client plan.table stages label isCount
    return [Document.empty.insert label value]

def singleColumn (plan : SelectPlan) : Except SqlError String :=
  match plan.fields with
  | [field] =>
    if field != "*" && plan.aggregate.isNone then .ok field
    else .error (.conversion (.notOneColumn plan.fields))
  | _ => .error (.conversion (.notOneColumn plan.fields))

/-! ## Writing -/

def rowDocument (columns : List String) (row : List Literal) : Document :=
  Document.ofList (columns.zip (row.map Literal.toValue))

/-- Runs an INSERT; the number of new documents. -/
def insert (sql : String) : Call σ Nat :=
  run client sql fun text => do
    let plan ← Call.cachedPlan client .inserts extractInsert text
    Call.checkTable client plan.table
    Call.ask (client.store.insertMany plan.table (plan.rows.map (rowDocument plan.columns)))

def whereFilter (predicate : Option String) (params : Parameters) : Except SqlError Filter :=
  match predicate with
  | some text => Condition.compile .rows params text
  | none => .ok .empty

/-- Runs an UPDATE; the number of documents that changed. -/
def update (sql : String) (params : Parameters) : Call σ Nat :=
  run client sql fun text => do
    let plan ← Call.cachedPlan client .updates extractUpdate text
    Call.checkTable client plan.table
    let filter ← Call.ofExcept (whereFilter plan.predicate params)
    let set := plan.assignments.map fun (path, literal) => (path, literal.toValue)
    Call.ask (client.store.updateMany plan.table filter set)

/-- Runs a DELETE; the number of documents that are gone. -/
def delete (sql : String) (params : Parameters) : Call σ Nat :=
  run client sql fun text => do
    let plan ← Call.cachedPlan client .deletes extractDelete text
    Call.checkTable client plan.table
    let filter ← Call.ofExcept (whereFilter plan.predicate params)
    Call.ask (client.store.deleteMany plan.table filter)

/-! ## Reading -/

def compileSelect (sql : String) : Call σ SelectPlan :=
  run client sql (prepareSelect client)

def select (sql : String) (params : Parameters) : Call σ ResultTable :=
  run client sql fun text => do
    let plan ← prepareSelect client text
    let values ← planExistsValues client plan
    let query ← Call.ofExcept (plan.planSelect params values)
    return .ofDocuments (← runPlan client plan query)

/-- The number of documents that the WHERE clause of a SELECT selects. -/
def count (sql : String) (params : Parameters) : Call σ Nat :=
  run client sql fun text => do
    let plan ← prepareSelect client text
    let filter ← resolvedFilter client plan params
    Call.ask (client.store.countDocuments plan.table filter)

def nonNull? (value : Option Value) : Option Value := value.filter (!·.isNull)

/-- The first value of a SELECT of one column or one aggregate call. -/
def singleValue (sql : String) (params : Parameters) : Call σ (Option Value) :=
  run client sql fun text => do
    let plan ← prepareSelect client text
    let filter ← resolvedFilter client plan params
    match plan.aggregate with
    | some (.count _) =>
      let n ← Call.ask (client.store.countDocuments plan.table filter)
      return some (.int64 (Int64.ofNat n))
    | some (.apply ..) =>
      let (stages, label) ← Call.ofExcept (plan.scalarPipeline filter)
      return nonNull? (some (← runScalar client plan.table stages label false))
    | none =>
      -- order and window of the statement play no part
      let column ← Call.ofExcept (singleColumn plan)
      let query : FindQuery :=
        ⟨filter, some (columnProjection column), none, none, some 1⟩
      let docs ← Call.ask (client.store.find plan.table query)
      return nonNull? (docs.head?.bind (·.getPath? column))

/-- The values of the one selected column, in the order of the result. -/
def valueList (sql : String) (params : Parameters) : Call σ (List Value) :=
  run client sql fun text => do
    let plan ← prepareSelect client text
    let column ← Call.ofExcept (singleColumn plan)
    let filter ← resolvedFilter client plan params
    let query ← Call.ofExcept (plan.findQuery filter)
    let docs ← Call.ask (client.store.find plan.table
      { query with projection := some (columnProjection column) })
    let values := docs.map fun doc => (doc.getPath? column).getD .null
    return if plan.distinct then values.foldl addDistinct [] else values

/-- The first cell of the result of a SELECT, unless it is null. -/
def scalar (sql : String) : Call σ (Option Value) := do
  let table ← select client sql []
  return nonNull? table.firstCell?

/-- The first cell of the result of a SELECT, converted. -/
def scalarAs (sql : String) (convert : Value → Except SqlError α) : Call σ (Option α) := do
  match ← scalar client sql with
  | some value => return some (← Call.ofExcept (convert value))
  | none => return none

end DocQuery.Client

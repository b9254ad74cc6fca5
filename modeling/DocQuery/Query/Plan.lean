import DocQuery.Condition.Compile
import DocQuery.Query.OrderBy
import DocQuery.Query.Pipeline
import DocQuery.Statement.Plan

/-! # Store plans

How a SELECT is run: as a find query, as a pipeline, or as a pipeline with one result. An EXISTS
clause is folded into the filter, given the values of the inner statement.

* `Strategy` — the five ways, in order of precedence.
* `selectFilter` — the filter of a SELECT.
* `findQuery`, `groupPipeline`, `distinctPipeline`, `scalarPipeline` — the commands.
* `planSelect` — the plan.
-/

namespace DocQuery

/-- The ways of running a SELECT. -/
inductive Strategy
  | exists
  | groupBy
  | distinct
  | scalarAggregate
  | find
  deriving DecidableEq

/-- The way of running a SELECT: the first that applies. -/
def SelectPlan.strategy (plan : SelectPlan) : Strategy :=
  if plan.exists_.isSome then .exists
  else if plan.groupBy.isSome then .groupBy
  else if plan.distinct then .distinct
  else if plan.aggregate.isSome then .scalarAggregate
  else .find

/-- A store command for a SELECT. -/
inductive QueryPlan
  | find (query : FindQuery)
  | aggregate (stages : Pipeline)
  /-- One group, whose result is read from one field. -/
  | scalar (stages : Pipeline) (label : String)

def QueryPlan.shell (plan : QueryPlan) (collection : String) : String :=
  match plan with
  | .find query => query.shell collection
  | .aggregate stages | .scalar stages _ => Pipeline.shell stages collection

namespace SelectPlan

/-! ## Filters -/

def whereFilter (plan : SelectPlan) (params : Parameters) : Except SqlError Filter :=
  match plan.predicate with
  | some text => Condition.compile .rows params text
  | none => .ok .empty

/--
The filter of an EXISTS clause for given inner values. Without any, EXISTS asks for an identifier
that no document has, and NOT EXISTS for nothing.
-/
def existsFilter (clause : ExistsClause) (values : List Value) : Filter :=
  match values.isEmpty, clause.negated with
  | true, false => .compare .eq idField (.objectId .nil)
  | true, true => .empty
  | false, false => .isIn clause.outerField values
  | false, true => .notIn clause.outerField values

def selectFilter (plan : SelectPlan) (params : Parameters) (existsValues : List Value) :
    Except SqlError Filter := do
  let filter ← plan.whereFilter params
  match plan.exists_ with
  | some clause => return filter.both (existsFilter clause existsValues)
  | none => return filter

/-! ## Commands -/

def order (plan : SelectPlan) (resolve : String → String) : Except SqlError (Option SortKeys) :=
  match plan.orderBy with
  | some clause => (readOrder resolve clause).map some
  | none => .ok none

def offset (plan : SelectPlan) : Option Nat := plan.skip.filter (0 < ·)

def findQuery (plan : SelectPlan) (filter : Filter) : Except SqlError FindQuery := do
  let projection :=
    if plan.isWildcard then none
    else some (plan.plainFields.foldl Projection.include_ .empty)
  return ⟨filter, projection, ← plan.order id, plan.offset, plan.top⟩

def accumulator : AggregateCall → Accumulator
  | .count _ => .count
  | .apply .sum field _ => .sum field
  | .apply .max field _ => .max field
  | .apply .min field _ => .min field
  | .apply .avg field _ => .avg field

/-- The last stages: offset and limit. -/
def windowStages (plan : SelectPlan) : Pipeline :=
  (plan.offset.map Stage.skip).toList ++ (plan.top.map Stage.limit).toList

def names (list : List String) (name : String) : Bool :=
  list.any (Text.eqIgnoreCase · name)

/-- The output fields of a grouping: the aggregate call and the selected keys, in order. -/
def groupOutputs (plan : SelectPlan) (keys : List String) : List (String × Accumulator) :=
  plan.fields.filterMap fun field =>
    match plan.aggregate.filter (·.label == field) with
    | some call => some (field, accumulator call)
    -- a field that is neither a key nor the call has no value in a group
    | none => if names keys field then some (field, .first field) else none

/-- The path of a sort key after grouping: a key that is not selected is below the identifier. -/
def groupedPath (plan : SelectPlan) (keys : List String) (field : String) : String :=
  if names keys field && !names plan.fields field then idField ++ "." ++ field else field

def groupPipeline (plan : SelectPlan) (filter : Filter) (params : Parameters) :
    Except SqlError Pipeline := do
  let some groupBy := plan.groupBy | throw (.malformed .noGroups plan.table)
  let keys := groupBy.fields
  let having ← match groupBy.having with
    | some text => (Condition.compile (.groups keys) params text).map fun f => [Stage.select f]
    | none => .ok []
  let order ← plan.order (plan.groupedPath keys)
  return [.select filter, .group (.fields keys) (plan.groupOutputs keys)] ++ having
    ++ (order.map Stage.sort).toList ++ plan.windowStages

def distinctPipeline (plan : SelectPlan) (filter : Filter) : Except SqlError Pipeline := do
  let key := if plan.isWildcard then .root else .fields plan.plainFields
  let order ← plan.order id
  return (if filter.isEmpty then [] else [.select filter])
    ++ [.group key [], .replaceRoot idField]
    ++ (order.map Stage.sort).toList ++ plan.windowStages

/-- The pipeline of an aggregate call over all selected documents, and its output field. -/
def scalarPipeline (plan : SelectPlan) (filter : Filter) : Except SqlError (Pipeline × String) :=
  match plan.aggregate with
  | none => .error (.malformed .noFunction plan.table)
  | some call =>
    .ok ([.select filter, .group .constant [(call.label, accumulator call)]], call.label)

def planWith (plan : SelectPlan) (params : Parameters) (filter : Filter) :
    Except SqlError QueryPlan :=
  let find := (plan.findQuery filter).map .find
  let scalar := (plan.scalarPipeline filter).map fun (stages, label) => .scalar stages label
  match plan.strategy with
  -- grouping and DISTINCT give way to an EXISTS clause
  | .exists => if plan.aggregate.isSome then scalar else find
  | .groupBy => (plan.groupPipeline filter params).map .aggregate
  | .distinct => (plan.distinctPipeline filter).map .aggregate
  | .scalarAggregate => scalar
  | .find => find

def planSelect (plan : SelectPlan) (params : Parameters) (existsValues : List Value) :
    Except SqlError QueryPlan := do
  plan.planWith params (← plan.selectFilter params existsValues)

end SelectPlan

end DocQuery

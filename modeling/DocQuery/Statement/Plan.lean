import DocQuery.Statement.Literal

/-! # Statement plans

What is read from a statement, before anything is known about the store.

* `SelectPlan`, with `AggregateCall`, `GroupBy` and `ExistsClause`.
* `InsertPlan`, `UpdatePlan`, `DeletePlan`.
-/

namespace DocQuery

/-- The aggregate functions of one field. -/
inductive AggregateFunction
  | sum
  | max
  | min
  | avg
  deriving DecidableEq

/-- The name of a function, which is also its default alias. -/
def AggregateFunction.name : AggregateFunction → String
  | .sum => "SUM"
  | .max => "MAX"
  | .min => "MIN"
  | .avg => "AVG"

def AggregateFunction.ofName? (name : String) : Option AggregateFunction :=
  match Text.upperAscii name with
  | "SUM" => some .sum
  | "MAX" => some .max
  | "MIN" => some .min
  | "AVG" => some .avg
  | _ => none

/-- The aggregate call of a SELECT, under the name of its output column. -/
inductive AggregateCall
  | count (label : String)
  | apply (function : AggregateFunction) (field : String) (label : String)
  deriving DecidableEq

def AggregateCall.label : AggregateCall → String
  | .count label => label
  | .apply _ _ label => label

def AggregateCall.isCount : AggregateCall → Bool
  | .count _ => true
  | .apply .. => false

/-- The keys of a grouping and the condition on its groups. -/
structure GroupBy where
  fields : List String
  having : Option String
  deriving DecidableEq

/-- A test that some, or no, row of another table has the same value as the outer row. -/
structure ExistsClause where
  negated : Bool
  table : String
  selectField : String
  innerField : String
  outerAlias : String
  outerField : String
  deriving DecidableEq

def ExistsClause.innerStatement (c : ExistsClause) : String :=
  "SELECT " ++ c.innerField ++ " FROM " ++ c.table

/-- A SELECT. The aggregate call stands in `fields` under its alias. -/
structure SelectPlan where
  table : String
  fields : List String
  predicate : Option String
  orderBy : Option String
  top : Option Nat
  skip : Option Nat
  distinct : Bool
  aggregate : Option AggregateCall
  groupBy : Option GroupBy
  exists_ : Option ExistsClause
  deriving DecidableEq

namespace SelectPlan

def isWildcard (p : SelectPlan) : Bool := p.fields.isEmpty || p.fields == ["*"]

/-- The selected document fields: neither the wildcard nor the aggregate call. -/
def plainFields (p : SelectPlan) : List String :=
  p.fields.filter fun f => f != "*" && some f != p.aggregate.map (·.label)

end SelectPlan

/-- An INSERT; every row has as many literals as there are columns. -/
structure InsertPlan where
  table : String
  columns : List String
  rows : List (List Literal)

/-- An UPDATE. -/
structure UpdatePlan where
  table : String
  predicate : Option String
  assignments : Named Literal

/-- A DELETE. -/
structure DeletePlan where
  table : String
  predicate : Option String
  deriving DecidableEq

end DocQuery

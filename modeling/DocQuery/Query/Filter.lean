import DocQuery.Value.Json

/-! # Filters

Conditions on documents.

* `Filter` — the conditions.
* `Filter.both` — conjunction that stays flat.
* `Filter.toJson` — the filter document of a store command.
-/

namespace DocQuery

/-- The comparisons of a field with one value. -/
inductive Comparison
  | eq
  | ne
  | gt
  | gte
  | lt
  | lte
  deriving DecidableEq

/-- A condition on a document. -/
inductive Filter
  /-- Every document passes. -/
  | empty
  | compare (op : Comparison) (field : String) (value : Value)
  /-- Both bounds are included. -/
  | range (field : String) (low high : Value)
  | isIn (field : String) (values : List Value)
  | notIn (field : String) (values : List Value)
  | present (field : String) (expected : Bool)
  | pattern (field : String) (source : String) (options : Option String)
  | all (filters : List Filter)
  | any (filters : List Filter)
  deriving Inhabited

namespace Filter

/-- Whether the filter is the one that every document passes. -/
def isEmpty : Filter → Bool
  | .empty => true
  | _ => false

/-- Both conditions. An empty side disappears, and a conjunction on the left is extended. -/
def both : Filter → Filter → Filter
  | .empty, other => other
  | this, .empty => this
  | .all filters, other => .all (filters ++ [other])
  | this, other => .all [this, other]

/-- The operator of a comparison; equality has none. -/
def operator? : Comparison → Option String
  | .eq => none
  | .ne => some "$ne"
  | .gt => some "$gt"
  | .gte => some "$gte"
  | .lt => some "$lt"
  | .lte => some "$lte"

def comparisonJson (op : Comparison) (value : Value) : Json :=
  match operator? op with
  | none => value.toJson
  | some name => .single name value.toJson

def patternJson (source : String) : Option String → Json
  | none => .single "$regex" (.string source)
  | some options => .object [("$options", .string options), ("$regex", .string source)]

mutual

def toJson : Filter → Json
  | .empty => .object []
  | .compare op field value => .single field (comparisonJson op value)
  | .range field low high =>
    .single field (.object [("$gte", low.toJson), ("$lte", high.toJson)])
  | .isIn field values => .single field (.single "$in" (.array (Value.toJsonItems values)))
  | .notIn field values => .single field (.single "$nin" (.array (Value.toJsonItems values)))
  | .present field expected => .single field (.single "$exists" (.bool expected))
  | .pattern field source options => .single field (patternJson source options)
  | .all filters => .single "$and" (.array (toJsonList filters))
  | .any filters => .single "$or" (.array (toJsonList filters))

def toJsonList : List Filter → List Json
  | [] => []
  | filter :: rest => toJson filter :: toJsonList rest

end

def text (f : Filter) : String := f.toJson.text

end Filter

end DocQuery

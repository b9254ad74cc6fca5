import DocQuery.Query.Find

/-! # Pipelines

Stages that turn a list of documents into another one.

* `GroupKey`, `Accumulator` — how documents are grouped and summed up.
* `Stage`, `Pipeline` — the stages.
* `Pipeline.shell` — the store command.
-/

namespace DocQuery

/-- What the documents of one group have in common. -/
inductive GroupKey
  /-- All documents make one group. -/
  | constant
  /-- The values of some fields. -/
  | fields (names : List String)
  /-- The whole document. -/
  | root
  deriving DecidableEq

/-- What is computed for a group. -/
inductive Accumulator
  | count
  | sum (field : String)
  | avg (field : String)
  | min (field : String)
  | max (field : String)
  | first (field : String)
  deriving DecidableEq

namespace Accumulator

def field? : Accumulator → Option String
  | .count => none
  | .sum f | .avg f | .min f | .max f | .first f => some f

def toJson : Accumulator → Json
  | .count => .single "$sum" (.integer 1)
  | .sum f => .single "$sum" (.string ("$" ++ f))
  | .avg f => .single "$avg" (.string ("$" ++ f))
  | .min f => .single "$min" (.string ("$" ++ f))
  | .max f => .single "$max" (.string ("$" ++ f))
  | .first f => .single "$first" (.string ("$" ++ f))

end Accumulator

def GroupKey.toJson : GroupKey → Json
  | .constant => .integer 1
  | .fields names => .ofMembers (names.map fun f => (f, .string ("$" ++ f)))
  | .root => .string "$$ROOT"

/-- A step of a pipeline. -/
inductive Stage
  | select (filter : Filter)
  | group (key : GroupKey) (outputs : List (String × Accumulator))
  | replaceRoot (path : String)
  | sort (keys : SortKeys)
  | skip (count : Nat)
  | limit (count : Nat)
  deriving Inhabited

def Stage.toJson : Stage → Json
  | .select filter => .single "$match" filter.toJson
  | .group key outputs =>
    .single "$group" (.ofMembers
      (("_id", key.toJson) :: outputs.map fun (name, acc) => (name, acc.toJson)))
  | .replaceRoot path => .single "$replaceRoot" (.single "newRoot" (.string ("$" ++ path)))
  | .sort keys => .single "$sort" (SortKeys.toJson keys)
  | .skip count => .single "$skip" (.integer count)
  | .limit count => .single "$limit" (.integer count)

abbrev Pipeline := List Stage

def Pipeline.shell (stages : Pipeline) (collection : String) : String :=
  "db." ++ collection ++ ".aggregate(" ++ (Json.array (stages.map Stage.toJson)).text ++ ")"

end DocQuery

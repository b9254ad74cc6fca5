import DocQuery.Query.Filter

/-! # Find queries

* `Projection` — which fields of a document are kept.
* `CastTarget`, `SortKey`, `SortKeys` — orders.
* `FindQuery` — filter, projection, order and window.
* `FindQuery.shell` — the store command.
-/

namespace DocQuery

/-! ## Projections -/

/-- For each named path whether it is included or excluded. -/
structure Projection where
  fields : Named Bool
  deriving DecidableEq

namespace Projection

def empty : Projection := ⟨[]⟩

def include_ (p : Projection) (path : String) : Projection := ⟨Named.insert path true p.fields⟩

def exclude (p : Projection) (path : String) : Projection := ⟨Named.insert path false p.fields⟩

/-- Whether some path is included, so that other fields are left out. -/
def isInclusion (p : Projection) : Bool := p.fields.any (·.2)

def included (p : Projection) : List String := (p.fields.filter (·.2)).map (·.1)

/-- Whether a top-level field is kept; the identifier is, unless it is excluded. -/
def keeps (p : Projection) (field : String) : Bool :=
  match Named.get? field p.fields with
  | some flag => flag
  | none => !p.isInclusion || field == "_id"

def toJson (p : Projection) : Json :=
  .object (p.fields.map fun (path, flag) => (path, .integer (if flag then 1 else 0)))

end Projection

/-! ## Orders -/

/-- The types that a sort key can be converted to. -/
inductive CastTarget
  | int
  | long
  | decimal
  | double
  | string
  | date
  | bool
  deriving DecidableEq

namespace CastTarget

def name : CastTarget → String
  | .int => "INT"
  | .long => "LONG"
  | .decimal => "DECIMAL"
  | .double => "DOUBLE"
  | .string => "STRING"
  | .date => "DATE"
  | .bool => "BOOL"

def all : List CastTarget := [.int, .long, .decimal, .double, .string, .date, .bool]

def ofName? (word : String) : Option CastTarget := all.find? (·.name == Text.upperAscii word)

def operator : CastTarget → String
  | .int => "$toInt"
  | .long => "$toLong"
  | .decimal => "$toDecimal"
  | .double => "$toDouble"
  | .string => "$toString"
  | .date => "$toDate"
  | .bool => "$toBool"

end CastTarget

/-- A path to sort by, with the type that its value is converted to, and a direction. -/
structure SortKey where
  field : String
  cast : Option CastTarget
  descending : Bool
  deriving DecidableEq

abbrev SortKeys := List SortKey

namespace SortKey

def direction (key : SortKey) : Json := .integer (if key.descending then -1 else 1)

/-- A key in a sort document: its direction, and the conversion if there is one. -/
def toJson (key : SortKey) : Json :=
  match key.cast with
  | none => key.direction
  | some target =>
    .object [("$expr", .single target.operator (.string ("$" ++ key.field))),
      ("direction", key.direction)]

end SortKey

def SortKeys.toJson (keys : SortKeys) : Json :=
  .ofMembers (keys.map fun key => (key.field, key.toJson))

/-! ## Queries -/

/-- A query for documents of one collection. -/
structure FindQuery where
  filter : Filter
  projection : Option Projection
  sort : Option SortKeys
  skip : Option Nat
  limit : Option Nat
  deriving Inhabited

namespace FindQuery

def ofFilter (filter : Filter) : FindQuery := ⟨filter, none, none, none, none⟩

def shell (q : FindQuery) (collection : String) : String :=
  let projection := match q.projection with
    | some p => p.toJson
    | none => .object []
  let part (name : String) (argument : Option String) : String :=
    match argument with
    | some text => "." ++ name ++ "(" ++ text ++ ")"
    | none => ""
  "db." ++ collection ++ ".find(" ++ q.filter.text ++ ", " ++ projection.text ++ ")"
    ++ part "sort" (q.sort.map fun keys => (SortKeys.toJson keys).text)
    ++ part "skip" (q.skip.map toString)
    ++ part "limit" (q.limit.map toString)

end FindQuery

end DocQuery

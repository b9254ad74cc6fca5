import DocQuery.Document
import DocQuery.Pattern.Parse
import DocQuery.Query.Filter

/-! # Matching

Whether a document passes a filter.

* `fieldEquals`, `fieldCompares` — conditions on one field.
* `Filter.matches` — the test, which fails on a malformed pattern.
-/

namespace DocQuery

/-- Why a query cannot be run. -/
inductive QueryError
  | badPattern (source : String)
  | rootNotDocument (path : String)
  deriving DecidableEq

def QueryError.message : QueryError → String
  | .badPattern source => "Invalid regex pattern: " ++ source
  | .rootNotDocument path =>
    "Execution error: $replaceRoot path '" ++ path ++ "' is not a document"

/--
Equality of a field with a value: a missing field equals null, and an array equals what one of its
items equals.
-/
def fieldEquals (found : Option Value) (value : Value) : Bool :=
  match found with
  | none => value.isNull
  | some (.array items) =>
    -- an array is compared as a whole only with another one
    if value.isArray then (Value.array items).looseEq value
    else items.any (·.looseEq value)
  | some v => v.looseEq value

/-- Whether two values have an order: both numbers, or of one kind. -/
def comparable (a b : Value) : Bool := (a.isNumber && b.isNumber) || a.kind == b.kind

/-- Whether the order of a field and a value is accepted; null and missing fields have none. -/
def fieldCompares (found : Option Value) (value : Value) (accept : Ordering → Bool) : Bool :=
  match found with
  | some v => !v.isNull && comparable v value && accept (v.compare value)
  | none => false

def Comparison.holds (op : Comparison) (found : Option Value) (value : Value) : Bool :=
  match op with
  | .eq => fieldEquals found value
  | .ne => !fieldEquals found value
  | .gt => fieldCompares found value (· == .gt)
  | .gte => fieldCompares found value (· != .lt)
  | .lt => fieldCompares found value (· == .lt)
  | .lte => fieldCompares found value (· != .gt)

/-- Whether the pattern occurs in a text, with the letter `i` among the options for any case. -/
def patternOccurs (source : String) (options : Option String) (text : String) :
    Except QueryError Bool :=
  let ignoreCase := options.any (·.toList.contains 'i')
  match Pattern.parse? (if ignoreCase then "(?i)" ++ source else source) with
  | some pattern => .ok (pattern.occursIn text)
  | none => .error (.badPattern source)

namespace Filter

mutual

/-- Whether a document passes. Conditions are tried in order, and the first that decides ends it. -/
def test (doc : Document) : Filter → Except QueryError Bool
  | .empty => .ok true
  | .compare op field value => .ok (op.holds (doc.getPath? field) value)
  | .range field low high =>
    let found := doc.getPath? field
    .ok (fieldCompares found low (· != .lt) && fieldCompares found high (· != .gt))
  | .isIn field values => .ok (values.any (fieldEquals (doc.getPath? field)))
  | .notIn field values => .ok (!values.any (fieldEquals (doc.getPath? field)))
  | .present field expected => .ok ((doc.getPath? field).isSome == expected)
  | .pattern field source options =>
    match doc.getPath? field with
    | some (.string text) => patternOccurs source options text
    | _ => .ok false
  | .all filters => testAll doc filters
  | .any filters => testAny doc filters

def testAll (doc : Document) : List Filter → Except QueryError Bool
  | [] => .ok true
  | filter :: rest => do
    if ← test doc filter then testAll doc rest else .ok false

def testAny (doc : Document) : List Filter → Except QueryError Bool
  | [] => .ok false
  | filter :: rest => do
    if ← test doc filter then .ok true else testAny doc rest

end

/-- The documents that pass, in order; fails as soon as a test fails. -/
def select (filter : Filter) : List Document → Except QueryError (List Document)
  | [] => .ok []
  | doc :: rest => do
    let passes ← filter.test doc
    let others ← select filter rest
    .ok (if passes then doc :: others else others)

end Filter

end DocQuery

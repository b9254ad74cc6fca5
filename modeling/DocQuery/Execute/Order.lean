import DocQuery.Document
import DocQuery.Query.Find
import DocQuery.Statement.Literal

/-! # Sorting and projecting

* `convert` — the conversion of a sort key.
* `SortKeys.compare`, `sortDocuments` — order by several keys; equal documents keep their order.
* `Projection.apply` — the kept part of a document.
-/

namespace DocQuery

open DocQuery.Text DocQuery.Number DocQuery.Time

def truncated (x : Float) : Value := .int64 (Int64.ofInt (Binary64.toInt minInt maxInt x))

def convertToInt : Value → Value
  | .int32 n => .int64 n.toInt64
  | .int64 n => .int64 n
  | .float x => truncated x
  | .bool b => .int64 (if b then 1 else 0)
  | .instant t => .int64 (Int64.ofInt t.toMillis)
  | .string s =>
    let s := trim s.toList
    match parseInt64? s with
    | some n => .int64 n
    | none => ((parseFloat? s).map truncated).getD .null
  | _ => .null

def convertToFloat : Value → Value
  | .bool b => .float (if b then 1.0 else 0.0)
  | .instant t => .float (Binary64.ofInt t.toMillis)
  | .string s => ((parseFloat? (trim s.toList)).map Value.float).getD .null
  | v => (v.asFloat?.map Value.float).getD .null

/-- Conversion to an instant; integers are milliseconds. -/
def convertToInstant : Value → Value
  | .instant t => .instant t
  | .string s => ((Instant.parse? (trimmed s)).map Value.instant).getD .null
  | v => ((v.asInt?.bind fun n => Instant.ofMillis? n.toInt).map Value.instant).getD .null

def convertToBool : Value → Value
  | .null => .null
  | .bool b => .bool b
  | .string s => .bool (s != "")
  | v =>
    match v.asFloat? with
    | some x => .bool (x != 0.0)
    | none => .bool true

/-- The value as a type; null where it has no such form. -/
def convert (target : CastTarget) (value : Value) : Value :=
  match target with
  | .int | .long => convertToInt value
  | .decimal | .double => convertToFloat value
  | .string => if value.isNull then .null else .string value.text
  | .date => convertToInstant value
  | .bool => convertToBool value

/-! ## Order -/

def SortKey.value? (key : SortKey) (doc : Document) : Option Value :=
  (doc.getPath? key.field).map fun v =>
    match key.cast with
    | none => v
    | some target => convert target v

/-- Order of possibly missing values; a missing one comes first. -/
def compareFound : Option Value → Option Value → Ordering
  | none, none => .eq
  | none, some _ => .lt
  | some _, none => .gt
  | some a, some b => a.compare b

def SortKey.compare (key : SortKey) (a b : Document) : Ordering :=
  let order := compareFound (key.value? a) (key.value? b)
  if key.descending then order.swap else order

/-- Order by the first key that tells two documents apart. -/
def SortKeys.compare : SortKeys → Document → Document → Ordering
  | [], _, _ => .eq
  | key :: rest, a, b => (key.compare a b).then (SortKeys.compare rest a b)

/-- The documents in order; those that are equal stay in the order they came in. -/
def sortDocuments (keys : SortKeys) (docs : List Document) : List Document :=
  docs.mergeSort fun a b => SortKeys.compare keys a b != .gt

/-! ## Projection -/

/-- Copies one path; a path that cannot be built is left out. -/
def copyPath (source target : Document) (path : String) : Document :=
  match source.getPath? path with
  | none => target
  | some value =>
    match target.setPath path value with
    | .ok changed => changed
    | .error _ => target

/-- The identifier of a document alone, if the projection keeps it. -/
def Projection.start (p : Projection) (doc : Document) : Document :=
  match doc.id? with
  | some id => if p.keeps idField then Document.empty.insert idField id else .empty
  | none => .empty

def Projection.apply (p : Projection) (doc : Document) : Document :=
  if p.isInclusion then p.included.foldl (copyPath doc) (p.start doc)
  else ⟨doc.fields.filter fun entry => p.keeps entry.1⟩

end DocQuery

import DocQuery.Error
import DocQuery.Document
import DocQuery.Query.Pipeline

/-! # Document stores

What statements ask of a store. A store is given by its operations on a state.

* `Store` — the operations.
* `StoreMethod`, `StoreCall` — a call of an operation, and how it is written.
-/

namespace DocQuery

/-- A step of a store: an answer or a failure, and the state afterwards. -/
abbrev StoreStep (σ α : Type) := σ → Except StoreError α × σ

/-- The operations of a store with states `σ`. -/
structure Store (σ : Type) where
  find : String → FindQuery → StoreStep σ (List Document)
  aggregate : String → Pipeline → StoreStep σ (List Document)
  insertMany : String → List Document → StoreStep σ Nat
  /-- Sets fields in all documents that pass; the number of documents that changed. -/
  updateMany : String → Filter → Named Value → StoreStep σ Nat
  deleteMany : String → Filter → StoreStep σ Nat
  countDocuments : String → Filter → StoreStep σ Nat
  collectionNames : StoreStep σ (List String)

/-- The names of the operations. -/
inductive StoreMethod
  | find | aggregate | insert | update | delete | count | list
  deriving DecidableEq

def StoreMethod.name : StoreMethod → String
  | .find => "find"
  | .aggregate => "aggregate"
  | .insert => "insert"
  | .update => "update"
  | .delete => "delete"
  | .count => "count"
  | .list => "list"

def StoreMethod.all : List StoreMethod :=
  [.find, .aggregate, .insert, .update, .delete, .count, .list]

/-- The call of an operation. -/
inductive StoreCall
  | find (collection : String) (query : FindQuery)
  | aggregate (collection : String) (stages : Pipeline)
  | insert (collection : String) (docs : List Document)
  | update (collection : String) (filter : Filter) (set : Named Value)
  | delete (collection : String) (filter : Filter)
  | count (collection : String) (filter : Filter)
  | list

namespace StoreCall

/-- The collection that a call names; listing names none. -/
def collection? : StoreCall → Option String
  | .find c _ | .aggregate c _ | .insert c _ | .update c _ _ | .delete c _ | .count c _ => some c
  | .list => none

def isWrite : StoreCall → Bool
  | .insert .. | .update .. | .delete .. => true
  | _ => false

def setJson (set : Named Value) : Json := .single "$set" (.object (Value.toJsonFields set))

def command (collection name arguments : String) : String :=
  "db." ++ collection ++ "." ++ name ++ "(" ++ arguments ++ ")"

def text : StoreCall → String
  | .find c query => query.shell c
  | .aggregate c stages => Pipeline.shell stages c
  | .insert c docs => command c "insertMany" (Json.array (docs.map Document.toJson)).text
  | .update c filter set => command c "updateMany" (filter.text ++ ", " ++ (setJson set).text)
  | .delete c filter => command c "deleteMany" filter.text
  | .count c filter => command c "countDocuments" filter.text
  | .list => "list"

end StoreCall

end DocQuery

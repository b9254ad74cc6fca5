import DocQuery.Execute.Group
import DocQuery.Execute.Match
import DocQuery.Execute.Order

/-! # Running queries

* `FindQuery.run` — filter, order, window and projection.
* `Stage.run`, `Pipeline.run` — a pipeline, stage by stage.
-/

namespace DocQuery

def window (skip limit : Option Nat) (docs : List Document) : List Document :=
  let rest := docs.drop (skip.getD 0)
  match limit with
  -- a limit of zero is no limit
  | some n => if n == 0 then rest else rest.take n
  | none => rest

/-- The result of a find query over the documents of a collection; a limit of zero is none. -/
def FindQuery.run (q : FindQuery) (docs : List Document) : Except QueryError (List Document) := do
  let selected ← q.filter.select docs
  let sorted := match q.sort with
    | some keys => sortDocuments keys selected
    | none => selected
  let page := window q.skip q.limit sorted
  match q.projection with
  | some p => return page.map p.apply
  | none => return page

def subdocument (path : String) (doc : Document) : Except QueryError Document :=
  match doc.getPath? path with
  | some (.object fields) => .ok ⟨fields⟩
  | _ => .error (.rootNotDocument path)

def Stage.run (stage : Stage) (docs : List Document) : Except QueryError (List Document) :=
  match stage with
  | .select filter => filter.select docs
  | .group key outputs => .ok (groupDocuments key outputs docs)
  | .replaceRoot path => docs.mapM (subdocument path)
  | .sort keys => .ok (sortDocuments keys docs)
  | .skip count => .ok (docs.drop count)
  | .limit count => .ok (docs.take count)

/-- The result of a pipeline over the documents of a collection. -/
def Pipeline.run : Pipeline → List Document → Except QueryError (List Document)
  | [], docs => .ok docs
  | stage :: rest, docs => do Pipeline.run rest (← stage.run docs)

end DocQuery

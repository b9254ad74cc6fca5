import DocQuery.Store.Basic

/-! # Watching a store

A store that notes every call before it passes it on, and that can be told to fail.

* `Watched` — the state: the inner one, the operations that fail, and the calls so far.
* `Store.watched` — the operations.
-/

namespace DocQuery

/-- The state of a watched store; the last call comes first. -/
structure Watched (σ : Type) where
  inner : σ
  faults : List (StoreMethod × StoreFault)
  calls : List StoreCall

namespace Watched

variable {σ α : Type}

def ofInner (inner : σ) : Watched σ := ⟨inner, [], []⟩

def fault? (w : Watched σ) (method : StoreMethod) : Option StoreError :=
  (w.faults.find? (·.1 == method)).map fun entry => ⟨entry.2, method.name⟩

def step (call : StoreCall) (method : StoreMethod) (next : StoreStep σ α) :
    StoreStep (Watched σ) α := fun w =>
  let w := { w with calls := call :: w.calls }
  match w.fault? method with
  | some e => (.error e, w)
  | none =>
    let (answer, inner) := next w.inner
    (answer, { w with inner := inner })

def takeCalls (w : Watched σ) : List StoreCall × Watched σ :=
  (w.calls.reverse, { w with calls := [] })

end Watched

def Store.watched {σ : Type} (s : Store σ) : Store (Watched σ) where
  find c query := Watched.step (.find c query) .find (s.find c query)
  aggregate c stages := Watched.step (.aggregate c stages) .aggregate (s.aggregate c stages)
  insertMany c docs := Watched.step (.insert c docs) .insert (s.insertMany c docs)
  updateMany c filter set :=
    Watched.step (.update c filter set) .update (s.updateMany c filter set)
  deleteMany c filter := Watched.step (.delete c filter) .delete (s.deleteMany c filter)
  countDocuments c filter := Watched.step (.count c filter) .count (s.countDocuments c filter)
  collectionNames := Watched.step .list .list s.collectionNames

end DocQuery

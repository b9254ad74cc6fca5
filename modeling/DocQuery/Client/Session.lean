import DocQuery.Cache.Collections
import DocQuery.Cache.Plans
import DocQuery.Client.Settings
import DocQuery.Statement.Write

/-! # Sessions

What a client keeps between calls, and the steps that all calls are made of. A step that fails
keeps what it changed before.

* `Caches`, `Session` — the state of a client and of its store.
* `Call` — a step with a result or an error.
* `Call.checkTable`, `Call.cachedPlan`, `Call.ask` — the steps.
-/

namespace DocQuery

/-- What a client remembers. -/
structure Caches where
  selects : PlanCache SelectPlan
  inserts : PlanCache InsertPlan
  updates : PlanCache UpdatePlan
  deletes : PlanCache DeletePlan
  collections : CollectionCache

def Caches.empty : Caches := ⟨.empty, .empty, .empty, .empty, .empty⟩

/-- The state of a client, of its store, and of the clock. -/
structure Session (σ : Type) where
  caches : Caches
  now : Moment
  store : σ

namespace Session

variable {σ : Type}

def start (store : σ) : Session σ := ⟨.empty, .start, store⟩

def advance (s : Session σ) (time : Nat) : Session σ := { s with now := s.now + time }

def clearSelects (s : Session σ) : Session σ :=
  { s with caches := { s.caches with selects := s.caches.selects.clear } }

end Session

/-- A client: its settings and the operations of its store. -/
structure Client (σ : Type) where
  settings : Settings
  store : Store σ

abbrev Call (σ α : Type) := Session σ → Except SqlError α × Session σ

namespace Call

variable {σ α β : Type}

def ok (a : α) : Call σ α := fun s => (.ok a, s)

/-- One step after the other; an error ends it. -/
def andThen (first : Call σ α) (next : α → Call σ β) : Call σ β := fun s =>
  match first s with
  | (.ok a, s) => next a s
  -- what the step changed before it failed stays
  | (.error e, s) => (.error e, s)

instance : Monad (Call σ) where
  pure := ok
  bind := andThen

def ofExcept (result : Except SqlError α) : Call σ α := fun s => (result, s)

def ask (step : StoreStep σ α) : Call σ α := fun s =>
  match step s.store with
  | (.ok a, store) => (.ok a, { s with store := store })
  | (.error e, store) => (.error (.store e), { s with store := store })

/-- A place in the caches that holds the plans of one kind of statement. -/
structure Slot (α : Type) where
  get : Caches → PlanCache α
  set : PlanCache α → Caches → Caches

def Slot.selects : Slot SelectPlan := ⟨(·.selects), fun p c => { c with selects := p }⟩

def Slot.inserts : Slot InsertPlan := ⟨(·.inserts), fun p c => { c with inserts := p }⟩

def Slot.updates : Slot UpdatePlan := ⟨(·.updates), fun p c => { c with updates := p }⟩

def Slot.deletes : Slot DeletePlan := ⟨(·.deletes), fun p c => { c with deletes := p }⟩

/-- The plan of a statement, from the cache if it is there. -/
def cachedPlan (client : Client σ) (slot : Slot α) (extract : String → Except SqlError α)
    (text : String) : Call σ α := fun s =>
  let (result, cache) := (slot.get s.caches).get (millis client.settings.planLifetime) s.now
    extract text
  (result, { s with caches := slot.set cache s.caches })

/-- Looks a collection up among the known ones; the answer has no consequences. -/
def lookUp (client : Client σ) (table : String) : Call σ Bool := fun s =>
  let (known, collections, store) := CollectionCache.check client.store
    (millis client.settings.collectionLifetime) s.now table s.caches.collections s.store
  (.ok known, ⟨{ s.caches with collections := collections }, s.now, store⟩)

/-- Refuses a table that is not allowed, and looks an allowed one up. -/
def checkTable (client : Client σ) (table : String) : Call σ Unit :=
  if client.settings.isAllowed table then do
    let _ ← lookUp client table
    return ()
  else ofExcept (.error (.tableNotAllowed table))

end Call

end DocQuery

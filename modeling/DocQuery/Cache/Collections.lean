import DocQuery.Cache.Clock
import DocQuery.Store.Basic

/-! # Cache of collection names

The names of the collections are listed anew when their time has run out. When the clock cannot
show the end of that time, they are listed at every look.

* `CollectionCache.refresh` — lists the names if it is time.
* `CollectionCache.check` — whether a collection is known; a failing store knows none.
-/

namespace DocQuery

/-- The names listed last, when they expire, and how often they were listed. -/
structure CollectionCache where
  names : List String
  expiry : Option Moment
  refreshes : Nat

namespace CollectionCache

def empty : CollectionCache := ⟨[], none, 0⟩

def isFresh (cache : CollectionCache) (now : Moment) : Bool :=
  cache.expiry.any fun expiry => now < expiry

variable {σ : Type}

def refresh (store : Store σ) (lifetime : Nat) (now : Moment) (cache : CollectionCache) (s : σ) :
    Except StoreError CollectionCache × σ :=
  if cache.isFresh now then (.ok cache, s)
  else match store.collectionNames s with
    -- the old names stay, and have expired
    | (.error e, s) => (.error e, s)
    | (.ok names, s) => (.ok ⟨names, now.after? lifetime, cache.refreshes + 1⟩, s)

/-- Whether a collection is known, with the cache and the store afterwards. -/
def check (store : Store σ) (lifetime : Nat) (now : Moment) (collection : String)
    (cache : CollectionCache) (s : σ) : Bool × CollectionCache × σ :=
  match cache.refresh store lifetime now s with
  | (.error _, s) => (false, cache, s)
  | (.ok cache, s) => (cache.names.contains collection, cache, s)

end CollectionCache

end DocQuery

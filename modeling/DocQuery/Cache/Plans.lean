import DocQuery.Cache.Clock
import DocQuery.Named

/-! # Cache of plans

Compiled plans are kept by the text that they come from. A plan is used as long as its time has
not run out; a plan whose end the clock cannot show is used forever.

* `PlanCache` — the plans, and counts of hits and misses.
* `PlanCache.get` — the plan of a text, compiled when there is none to use.
-/

namespace DocQuery

/-- A plan and when it was compiled. -/
structure CachedPlan (α : Type) where
  plan : α
  since : Moment

/-- Plans by text. -/
structure PlanCache (α : Type) where
  entries : Named (CachedPlan α)
  hits : Nat
  misses : Nat

namespace PlanCache

variable {α ε : Type}

def empty : PlanCache α := ⟨[], 0, 0⟩

def isFresh (lifetime : Nat) (now : Moment) (entry : CachedPlan α) : Bool :=
  match entry.since.after? lifetime with
  | some expiry => now < expiry
  | none => true

def fresh? (cache : PlanCache α) (lifetime : Nat) (now : Moment) (text : String) : Option α :=
  ((cache.entries.get? text).filter (isFresh lifetime now)).map (·.plan)

/--
The plan of a text, and the cache afterwards. A plan that cannot be used is compiled anew; a
failure is reported and not kept.
-/
def get (cache : PlanCache α) (lifetime : Nat) (now : Moment) (compile : String → Except ε α)
    (text : String) : Except ε α × PlanCache α :=
  match cache.fresh? lifetime now text with
  | some plan => (.ok plan, { cache with hits := cache.hits + 1 })
  | none =>
    let cache := { cache with misses := cache.misses + 1 }
    match compile text with
    -- an expired plan of the text stays where it is
    | .error e => (.error e, cache)
    | .ok plan => (.ok plan, { cache with entries := cache.entries.insert text ⟨plan, now⟩ })

/-- Forgets all plans; the counts stay. -/
def clear (cache : PlanCache α) : PlanCache α := { cache with entries := [] }

def size (cache : PlanCache α) : Nat := cache.entries.length

/-- Hits as a part of all requests; zero when there were none. -/
def hitRate (cache : PlanCache α) : Float :=
  let total := cache.hits + cache.misses
  if total == 0 then 0.0 else Float.ofNat cache.hits / Float.ofNat total

end PlanCache

end DocQuery

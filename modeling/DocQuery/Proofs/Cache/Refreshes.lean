import DocQuery.Cache.Collections
import DocQuery.Client.Settings
import DocQuery.Store.Memory
import Mathlib.Data.List.Basic

/-! # The history of a cache of collection names

A cache of names is run through looks, passing time and changes of the store, with a record of the
times that the names were listed. The last listing on record tells what the next look will do.

* `CollectionCache.Event`, `CollectionCache.Run` — what can happen, and a cache with its record.
* `CollectionCache.Run.Recorded` — the cache holds the last listing and the end of its time.
* `CollectionCache.Run.recorded_step` — every event keeps this.
* `collection_cache_history` — when a look lists the names, and what it answers, over every run.
* `listed_before_expiry` — a lifetime whose end the clock cannot show.
-/

namespace DocQuery

variable {σ : Type}

/-- Listing the collections does not fail. -/
def Store.ListsAlways (store : Store σ) : Prop :=
  ∀ s, ∃ names after, store.collectionNames s = (.ok names, after)

namespace CollectionCache

/-! ## One look -/

variable {store : Store σ} {cache : CollectionCache} {lifetime : Nat} {now : Moment} {s : σ}

theorem check_of_fresh (fresh : cache.isFresh now = true) (store : Store σ) (lifetime : Nat)
    (collection : String) (s : σ) : cache.check store lifetime now collection s =
      (cache.names.contains collection, cache, s) := by
  simp [check, refresh, fresh]

theorem check_of_expired (expired : cache.isFresh now = false) {names : List String} {after : σ}
    (listed : store.collectionNames s = (.ok names, after)) (lifetime : Nat)
    (collection : String) : cache.check store lifetime now collection s =
      (names.contains collection, ⟨names, now.after? lifetime, cache.refreshes + 1⟩, after) := by
  simp [check, refresh, expired, listed]

/-- A look lists the names exactly if their time has run out. -/
theorem refreshes_lt_check_iff (lists : store.ListsAlways) (collection : String) :
    cache.refreshes < (cache.check store lifetime now collection s).2.1.refreshes ↔
      cache.isFresh now = false := by
  cases fresh : cache.isFresh now with
  | true => simp [check_of_fresh fresh]
  | false =>
    obtain ⟨names, after, listed⟩ := lists s
    simp [check_of_expired fresh listed]

/-! ## Runs -/

/-- What can happen to a cache and its store. -/
inductive Event (σ : Type)
  | check (collection : String)
  /-- Time passes. -/
  | advance (time : Nat)
  /-- Someone else brings the store into another state. -/
  | change (s : σ)

/-- A listing on record: when the names were listed, and which they were. -/
structure Listing where
  moment : Moment
  names : List String

/-- A cache, what its clock shows, its store, and the listings so far, the latest first. -/
structure Run (σ : Type) where
  cache : CollectionCache
  now : Moment
  store : σ
  listings : List Listing

namespace Run

def start (now : Moment) (s : σ) : Run σ := ⟨.empty, now, s, []⟩

/-- The names that the store gives when it is asked, none if it fails. -/
def namesNow (store : Store σ) (run : Run σ) : List String :=
  match (store.collectionNames run.store).1 with
  | .ok names => names
  | .error _ => []

def step (store : Store σ) (lifetime : Nat) (run : Run σ) : Event σ → Run σ
  | .check collection =>
    let (_, cache, after) := run.cache.check store lifetime run.now collection run.store
    -- that the names were listed is seen from the counter
    let listings :=
      if run.cache.refreshes < cache.refreshes then ⟨run.now, run.namesNow store⟩ :: run.listings
      else run.listings
    ⟨cache, run.now, after, listings⟩
  | .advance time => { run with now := run.now + time }
  | .change s => { run with store := s }

def steps (store : Store σ) (lifetime : Nat) (events : List (Event σ)) (run : Run σ) : Run σ :=
  events.foldl (step store lifetime) run

def last? (run : Run σ) : Option Listing := run.listings.head?

/-- The cache holds the names that were listed last, and when their time ends. -/
structure Recorded (lifetime : Nat) (run : Run σ) : Prop where
  names : ∀ last, run.last? = some last → run.cache.names = last.names
  expiry : run.cache.expiry = run.last?.bind (·.moment.after? lifetime)
  count : run.cache.refreshes = run.listings.length

/-- The names have not been listed yet, or the lifetime has passed since they were. -/
def IsDue (lifetime : Nat) (run : Run σ) : Prop :=
  ∀ last, run.last? = some last → last.moment + lifetime ≤ run.now

/-- The clock cannot show when the time of the last listing ends. -/
def IsEndless (lifetime : Nat) (run : Run σ) : Prop :=
  ∃ last, run.last? = some last ∧ Moment.bound ≤ last.moment + lifetime

variable {run : Run σ}

theorem step_of_fresh (fresh : run.cache.isFresh run.now = true) (store : Store σ)
    (lifetime : Nat) (collection : String) : run.step store lifetime (.check collection) = run := by
  simp [step, check_of_fresh fresh]

theorem step_of_expired (expired : run.cache.isFresh run.now = false) {names : List String}
    {after : σ} (listed : store.collectionNames run.store = (.ok names, after)) (lifetime : Nat)
    (collection : String) : run.step store lifetime (.check collection) =
      ⟨⟨names, run.now.after? lifetime, run.cache.refreshes + 1⟩, run.now, after,
        ⟨run.now, names⟩ :: run.listings⟩ := by
  simp [step, check_of_expired expired listed, namesNow, listed]

theorem recorded_start (lifetime : Nat) (now : Moment) (s : σ) : Recorded lifetime (start now s) :=
  ⟨nofun, rfl, rfl⟩

/-- Every event keeps the record. -/
theorem recorded_step (lists : store.ListsAlways) (recorded : Recorded lifetime run)
    (event : Event σ) : Recorded lifetime (run.step store lifetime event) := by
  cases event with
  | check collection =>
    cases fresh : run.cache.isFresh run.now with
    | true => rwa [step_of_fresh fresh]
    | false =>
      obtain ⟨names, after, listed⟩ := lists run.store
      rw [step_of_expired fresh listed]
      refine ⟨?_, rfl, congrArg (· + 1) recorded.count⟩
      rintro last ⟨⟩
      rfl
  | advance time => exact ⟨recorded.names, recorded.expiry, recorded.count⟩
  | change s => exact ⟨recorded.names, recorded.expiry, recorded.count⟩

theorem recorded_steps (lists : store.ListsAlways) (recorded : Recorded lifetime run)
    (events : List (Event σ)) : Recorded lifetime (run.steps store lifetime events) := by
  induction events generalizing run with
  | nil => exact recorded
  | cons event events ih => exact ih (recorded_step lists recorded event)

/-- Only before the end of a time that the clock can show is a listing still used. -/
theorem expired_iff (recorded : Recorded lifetime run) :
    run.cache.isFresh run.now = false ↔ run.IsDue lifetime ∨ run.IsEndless lifetime := by
  -- no end is kept both when nothing has been listed and when the clock cannot show it
  rw [isFresh, recorded.expiry, IsDue, IsEndless]
  cases run.last? with
  | none => simp
  | some last =>
    by_cases shown : last.moment + lifetime < Moment.bound
    · simp [Moment.after?, shown, Nat.not_le_of_lt shown]
    · simp [Moment.after?, shown, Nat.le_of_not_lt shown]

end Run

end CollectionCache

open CollectionCache in
/--
A cache after any run of looks, passing time and changes of a store that lists its collections: the
next look lists the names exactly if they have not been listed yet, or the lifetime has passed since
they were, or the clock cannot show when it will have passed. It answers from the names that it
lists, or else from those that were listed last. So the names are listed once per lifetime exactly
as long as the clock can show the end of a lifetime before it has come.
-/
theorem collection_cache_history {store : Store σ} (lists : store.ListsAlways) (lifetime : Nat)
    (start : Moment) (s : σ) (events : List (Event σ)) (collection : String) :
    let run := (Run.start start s).steps store lifetime events
    let look := run.cache.check store lifetime run.now collection run.store
    let anew := run.cache.refreshes < look.2.1.refreshes
    (anew ↔ run.IsDue lifetime ∨ run.IsEndless lifetime) ∧
      ((anew ↔ run.IsDue lifetime) ↔ (run.IsEndless lifetime → run.IsDue lifetime)) ∧
      (anew → look.1 = (run.namesNow store).contains collection) ∧
      (¬ anew → ∃ last, run.last? = some last ∧ look.1 = last.names.contains collection) ∧
      run.cache.refreshes = run.listings.length := by
  intro run look anew
  have recorded : run.Recorded lifetime :=
    Run.recorded_steps lists (Run.recorded_start lifetime start s) events
  have expired : anew ↔ run.cache.isFresh run.now = false :=
    refreshes_lt_check_iff lists collection
  have due : anew ↔ run.IsDue lifetime ∨ run.IsEndless lifetime :=
    expired.trans (Run.expired_iff recorded)
  refine ⟨due, ⟨fun once endless => once.mp (due.mpr (.inr endless)), fun ends => ?_⟩,
    fun listed => ?_, fun kept => ?_, recorded.count⟩
  · exact due.trans ⟨fun either => either.elim id ends, .inl⟩
  · obtain ⟨names, after, answered⟩ := lists run.store
    simp [look, check_of_expired (expired.mp listed) answered, Run.namesNow, answered]
  · rw [expired, Bool.not_eq_false] at kept
    -- without a listing there would be no end of its time
    cases last : run.last? with
    | none => simp [isFresh, recorded.expiry, last] at kept
    | some listing =>
      refine ⟨listing, rfl, ?_⟩
      simp [look, check_of_fresh kept, recorded.names listing last]

namespace CollectionCache

theorem listsAlways_memory (ids : IdSupply) : (Memory.store ids).ListsAlways :=
  fun m => ⟨_, m, rfl⟩

/-- A collection that comes into being is known when the ten seconds of the last listing are over. -/
theorem collection_cache_history_of_ten_seconds :
    let store := Memory.store fun _ => .nil
    let filled : Memory := ⟨[("t", [])], 0⟩
    let run := (Run.start Moment.start Memory.empty).steps store (millis 10)
      [.check "t", .change filled, .advance (millis 9), .check "t", .advance (millis 1)]
    let look := run.cache.check store (millis 10) run.now "t" run.store
    store.ListsAlways ∧ run.IsDue (millis 10) ∧ run.cache.refreshes = 1 ∧ look.1 = true := by
  intro store filled run look
  obtain ⟨listed, -, answer, -, -⟩ := collection_cache_history
    (listsAlways_memory fun _ => .nil) (millis 10) Moment.start Memory.empty
    [.check "t", .change filled, .advance (millis 9), .check "t", .advance (millis 1)] "t"
  have last : run.last?.all (fun last => last.moment + millis 10 ≤ run.now) = true := by
    decide +kernel
  have due : run.IsDue (millis 10) := fun listing found => by simpa [found] using last
  exact ⟨listsAlways_memory _, due, by decide +kernel,
    (answer (listed.mpr (.inl due))).trans (by decide +kernel)⟩

/-- With a lifetime of 2 ^ 64 - 1 seconds, which settings may have, the second of two looks at one
moment lists the names again. -/
theorem listed_before_expiry :
    let settings := { Settings.standard "memory://local" "test" with
      collectionLifetime := 18446744073709551615 }
    let lifetime := millis settings.collectionLifetime
    let store := Memory.store fun _ => .nil
    let run := (Run.start Moment.start Memory.empty).steps store lifetime [.check "t"]
    let look := run.cache.check store lifetime run.now "t" run.store
    settings.check = .ok () ∧ run.last?.map (·.moment) = some run.now ∧
      ¬ (run.cache.refreshes < look.2.1.refreshes ↔ run.IsDue lifetime) := by
  intro settings lifetime store run look
  refine ⟨by decide +kernel, rfl, fun once => ?_⟩
  have early : ¬ run.IsDue lifetime := fun due =>
    absurd (due ⟨Moment.start, []⟩ rfl) (by decide +kernel)
  exact early (once.mp (by decide +kernel))

end CollectionCache

end DocQuery

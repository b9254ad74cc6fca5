import DocQuery.Proofs.Client.CachedPlans
import DocQuery.Proofs.Value.NamedEntries
import Mathlib.Data.Finset.Card

/-! # The history of a cache of plans

A cache of plans is run through requests, passing time and clearings, with a record of what was
asked since it was last cleared. The record tells everything that the cache will do.

* `PlanCache.Event`, `PlanCache.Run` — what can happen to a cache, and a cache with its record.
* `PlanCache.Run.Recorded` — the plans that are kept are those on record.
* `PlanCache.Run.recorded_step` — every event keeps this.
* `plan_cache_history` — hits, answers, size and counts from the record, over every run.
-/

namespace DocQuery

variable {α ε : Type}

namespace PlanCache

/-! ## One request -/

variable {cache : PlanCache α} {lifetime : Nat} {now : Moment} {compile : String → Except ε α}
  {text : String} {plan : α} {e : ε}

theorem get_of_fresh (fresh : cache.fresh? lifetime now text = some plan) :
    cache.get lifetime now compile text = (.ok plan, { cache with hits := cache.hits + 1 }) := by
  rw [get, fresh]

theorem get_of_error (notFresh : cache.fresh? lifetime now text = none)
    (fails : compile text = .error e) : cache.get lifetime now compile text =
      (.error e, { cache with misses := cache.misses + 1 }) := by
  simp [get, notFresh, fails]

theorem get_of_ok (notFresh : cache.fresh? lifetime now text = none)
    (compiles : compile text = .ok plan) : cache.get lifetime now compile text =
      (.ok plan, ⟨cache.entries.insert text ⟨plan, now⟩, cache.hits, cache.misses + 1⟩) := by
  simp [get, notFresh, compiles]

/-- A request is a hit exactly if there is a plan to use. -/
theorem hits_lt_get_iff : cache.hits < (cache.get lifetime now compile text).2.hits ↔
    (cache.fresh? lifetime now text).isSome = true := by
  cases fresh : cache.fresh? lifetime now text with
  | some plan => simp [get_of_fresh fresh]
  | none =>
    cases compiled : compile text with
    | error e => simp [get_of_error fresh compiled]
    | ok plan => simp [get_of_ok fresh compiled]

/-- A plan can be used until its time has run out, and forever if the clock cannot show when. -/
theorem isSome_fresh?_iff : (cache.fresh? lifetime now text).isSome = true ↔
    ∃ since, (cache.entries.get? text).map (·.since) = some since ∧
      (since + lifetime < Moment.bound → now < since + lifetime) := by
  rw [fresh?]
  cases cache.entries.get? text with
  | none => simp
  | some entry =>
    by_cases shown : entry.since + lifetime < Moment.bound <;>
      simp [Option.filter, isFresh, Moment.after?, shown]

theorem counts_get : (cache.get lifetime now compile text).2.hits +
    (cache.get lifetime now compile text).2.misses = cache.hits + cache.misses + 1 := by
  cases fresh : cache.fresh? lifetime now text with
  | some plan => rw [get_of_fresh fresh, Nat.add_right_comm]
  | none =>
    cases compiled : compile text with
    | error e => rw [get_of_error fresh compiled, Nat.add_assoc]
    | ok plan => rw [get_of_ok fresh compiled, Nat.add_assoc]

/-! ## Runs -/

/-- What can happen to a cache. -/
inductive Event
  | get (text : String)
  /-- Time passes. -/
  | advance (time : Nat)
  | clear

def Event.isGet : Event → Bool
  | .get _ => true
  | _ => false

/-- A request on record, with the moment and the answer. -/
structure Request (α ε : Type) where
  text : String
  moment : Moment
  isHit : Bool
  answer : Except ε α

/-- Whether the request was a miss whose text compiled. -/
def Request.compiled (r : Request α ε) : Bool := !r.isHit && r.answer.isOk

/-- When a text was last compiled, with the latest request first. -/
def lastCompiled? (text : String) (requests : List (Request α ε)) : Option Moment :=
  (requests.find? fun r => r.compiled && r.text == text).map (·.moment)

/-- The different texts that were compiled. -/
def compiledTexts (requests : List (Request α ε)) : Finset String :=
  ((requests.filter Request.compiled).map (·.text)).toFinset

/-- A cache, what its clock shows, and what was asked since it was last cleared, the latest first. -/
structure Run (α ε : Type) where
  cache : PlanCache α
  now : Moment
  requests : List (Request α ε)

namespace Run

def start (now : Moment) : Run α ε := ⟨.empty, now, []⟩

def step (lifetime : Nat) (compile : String → Except ε α) (run : Run α ε) : Event → Run α ε
  | .get text =>
    let (answer, cache) := run.cache.get lifetime run.now compile text
    -- that it was a hit is seen from the counters
    ⟨cache, run.now, ⟨text, run.now, run.cache.hits < cache.hits, answer⟩ :: run.requests⟩
  | .advance time => { run with now := run.now + time }
  | .clear => ⟨run.cache.clear, run.now, []⟩

def steps (lifetime : Nat) (compile : String → Except ε α) (events : List Event)
    (run : Run α ε) : Run α ε :=
  events.foldl (step lifetime compile) run

/-- The plans that are kept are those of the texts that were compiled, since when they were. -/
structure Recorded (compile : String → Except ε α) (run : Run α ε) : Prop where
  faithful : Faithful compile run.cache
  sorted : Named.Sorted run.cache.entries
  since : ∀ text,
    (run.cache.entries.get? text).map (·.since) = lastCompiled? text run.requests

variable {run : Run α ε} {lifetime : Nat} {text : String} {plan : α} {e : ε}

theorem step_of_fresh (fresh : run.cache.fresh? lifetime run.now text = some plan) :
    run.step lifetime compile (.get text) =
      ⟨{ run.cache with hits := run.cache.hits + 1 }, run.now,
        ⟨text, run.now, true, .ok plan⟩ :: run.requests⟩ := by
  simp [step, get_of_fresh fresh]

theorem step_of_error (notFresh : run.cache.fresh? lifetime run.now text = none)
    (fails : compile text = .error e) :
    run.step lifetime compile (.get text) =
      ⟨{ run.cache with misses := run.cache.misses + 1 }, run.now,
        ⟨text, run.now, false, .error e⟩ :: run.requests⟩ := by
  simp [step, get_of_error notFresh fails]

theorem step_of_ok (notFresh : run.cache.fresh? lifetime run.now text = none)
    (compiles : compile text = .ok plan) :
    run.step lifetime compile (.get text) =
      ⟨⟨run.cache.entries.insert text ⟨plan, run.now⟩, run.cache.hits, run.cache.misses + 1⟩,
        run.now, ⟨text, run.now, false, .ok plan⟩ :: run.requests⟩ := by
  simp [step, get_of_ok notFresh compiles]

theorem lastCompiled?_cons (r : Request α ε) (requests : List (Request α ε)) (text : String) :
    lastCompiled? text (r :: requests) =
      if r.compiled = true ∧ r.text = text then some r.moment
      else lastCompiled? text requests := by
  by_cases here : r.compiled = true ∧ r.text = text
  · simp [lastCompiled?, here]
  · rw [if_neg here, lastCompiled?, List.find?_cons_of_neg (by simpa using here), lastCompiled?]

theorem recorded_start (compile : String → Except ε α) (now : Moment) :
    Recorded compile (start now : Run α ε) :=
  ⟨faithful_empty compile, .nil, fun _ => rfl⟩

/-- A request keeps the record: a hit and a failure leave the plans as they are, and a plan that was
compiled takes the place of the one of its text. -/
theorem recorded_get (recorded : Recorded compile run) (lifetime : Nat) (text : String) :
    Recorded compile (run.step lifetime compile (.get text)) := by
  cases fresh : run.cache.fresh? lifetime run.now text with
  | some plan =>
    rw [step_of_fresh fresh]
    refine ⟨recorded.faithful, recorded.sorted, fun other => ?_⟩
    rw [lastCompiled?_cons, if_neg (by simp [Request.compiled])]
    exact recorded.since other
  | none =>
    cases compiled : compile text with
    | error e =>
      rw [step_of_error fresh compiled]
      refine ⟨recorded.faithful, recorded.sorted, fun other => ?_⟩
      rw [lastCompiled?_cons, if_neg (by simp [Request.compiled, Except.isOk, Except.toBool])]
      exact recorded.since other
    | ok plan =>
      have faithful := (recorded.faithful.get lifetime run.now text).2
      rw [get_of_ok fresh compiled] at faithful
      rw [step_of_ok fresh compiled]
      refine ⟨faithful, Named.sorted_insert recorded.sorted, fun other => ?_⟩
      rw [lastCompiled?_cons]
      by_cases same : text = other
      · subst same
        rw [Named.get?_insert_self, if_pos ⟨rfl, rfl⟩]
        rfl
      · rw [Named.get?_insert_of_ne (Ne.symm same), if_neg fun here => same here.2]
        exact recorded.since other

/-- Every event keeps the record. -/
theorem recorded_step (recorded : Recorded compile run) (lifetime : Nat) (event : Event) :
    Recorded compile (run.step lifetime compile event) := by
  cases event with
  | get text => exact recorded_get recorded lifetime text
  | advance time => exact ⟨recorded.faithful, recorded.sorted, recorded.since⟩
  | clear => exact ⟨faithful_clear compile _, .nil, fun _ => rfl⟩

theorem recorded_steps (recorded : Recorded compile run) (lifetime : Nat) (events : List Event) :
    Recorded compile (run.steps lifetime compile events) := by
  induction events generalizing run with
  | nil => exact recorded
  | cons event events ih => exact ih (recorded_step recorded lifetime event)

/-- Hits and misses count the requests. -/
theorem counts_steps (run : Run α ε) (lifetime : Nat) (events : List Event) :
    (run.steps lifetime compile events).cache.hits +
        (run.steps lifetime compile events).cache.misses =
      run.cache.hits + run.cache.misses + events.countP Event.isGet := by
  induction events generalizing run with
  | nil => rfl
  | cons event events ih =>
    refine (ih (run.step lifetime compile event)).trans ?_
    cases event with
    | get text =>
      change (run.cache.get lifetime run.now compile text).2.hits +
        (run.cache.get lifetime run.now compile text).2.misses + _ = _
      rw [counts_get, List.countP_cons_of_pos rfl, Nat.add_right_comm, Nat.add_assoc]
    | advance time => rw [List.countP_cons_of_neg (by simp [Event.isGet])]; rfl
    | clear => rw [List.countP_cons_of_neg (by simp [Event.isGet])]; rfl

theorem mem_compiledTexts_iff (requests : List (Request α ε)) (text : String) :
    text ∈ compiledTexts requests ↔ (lastCompiled? text requests).isSome = true := by
  simp only [compiledTexts, lastCompiled?, List.mem_toFinset, List.mem_map, List.mem_filter,
    Option.isSome_map, List.find?_isSome, Bool.and_eq_true, beq_iff_eq, and_assoc]

/-- The plans that are kept are as many as the different texts that were compiled. -/
theorem size_eq (recorded : Recorded compile run) :
    run.cache.size = (compiledTexts run.requests).card := by
  have kept : (Named.keys run.cache.entries).toFinset = compiledTexts run.requests := by
    ext text
    rw [List.mem_toFinset, Named.mem_keys_iff, mem_compiledTexts_iff, ← recorded.since,
      Option.isSome_map]
  rw [← kept, List.toFinset_card_of_nodup (Named.nodup_keys recorded.sorted), Named.keys,
    List.length_map, size]

end Run

end PlanCache

open PlanCache in
/--
A cache after any run of requests, passing time and clearings answers the next request with what its
text compiles to. The request is a hit exactly if the text has been compiled since the cache was
last cleared and the time of that plan, counted from the last time that it was compiled, has not
run out or ends beyond what the clock shows. A hit changes only the count of hits. A text that does
not compile is never a hit, and changes only the count of misses. The cache has a plan for each text
that was compiled since it was last cleared, and hits and misses count all requests.
-/
theorem plan_cache_history (lifetime : Nat) (compile : String → Except ε α) (start : Moment)
    (events : List Event) (text : String) :
    let run := (Run.start start).steps lifetime compile events
    let next := run.cache.get lifetime run.now compile text
    next.1 = compile text ∧
      (run.cache.hits < next.2.hits ↔ ∃ since, lastCompiled? text run.requests = some since ∧
        (since + lifetime < Moment.bound → run.now < since + lifetime)) ∧
      (run.cache.hits < next.2.hits → next.2 = { run.cache with hits := run.cache.hits + 1 }) ∧
      (∀ e, compile text = .error e →
        next.2 = { run.cache with misses := run.cache.misses + 1 }) ∧
      run.cache.size = (compiledTexts run.requests).card ∧
      run.cache.hits + run.cache.misses = events.countP Event.isGet := by
  intro run next
  have recorded : run.Recorded compile :=
    Run.recorded_steps (Run.recorded_start compile start) lifetime events
  have answered : next.1 = compile text := (recorded.faithful.get lifetime run.now text).1
  refine ⟨answered, ?hit, ?unchanged, ?failing, Run.size_eq recorded, ?counts⟩
  case hit => rw [← recorded.since, ← isSome_fresh?_iff]; exact hits_lt_get_iff
  case unchanged =>
    intro isHit
    obtain ⟨plan, fresh⟩ := Option.isSome_iff_exists.mp (hits_lt_get_iff.mp isHit)
    exact congrArg Prod.snd (get_of_fresh fresh)
  case failing =>
    intro e fails
    cases fresh : run.cache.fresh? lifetime run.now text with
    | none => exact congrArg Prod.snd (get_of_error fresh fails)
    | some plan =>
      have served : next.1 = .ok plan := congrArg Prod.fst (get_of_fresh fresh)
      exact nomatch served.symm.trans (answered.trans fails)
  case counts =>
    rw [Run.counts_steps]
    exact Nat.zero_add _

end DocQuery

import DocQuery.Client.Basic
import DocQuery.Store.Recorder

/-! # Reasoning about steps

Rules for the steps that calls are made of. A rule speaks of an invariant of the session and of
what the result of a step satisfies, so a call is followed in the order in which it is written.

* `Call.Keeps` — a step keeps an invariant, and its results satisfy a condition.
* `Watched.Noted` — which calls a recorder has noted since an earlier moment.
* `Call.keeps_bind`, `Call.stored_ask`, `Call.noted_checkTable`, … — one rule for each kind of step.
-/

namespace DocQuery

variable {σ α β : Type}

/-! ## Noted calls -/

namespace Watched

/-- All calls that were noted after those in `before` satisfy `P`. -/
def Noted (P : StoreCall → Prop) (before : List StoreCall) (w : Watched σ) : Prop :=
  ∃ made, w.calls = made ++ before ∧ ∀ call ∈ made, P call

variable {P : StoreCall → Prop} {before : List StoreCall} {w : Watched σ}

theorem noted_self (P : StoreCall → Prop) (w : Watched σ) : Noted P w.calls w :=
  ⟨[], rfl, by simp⟩

theorem step_calls (call : StoreCall) (method : StoreMethod) (next : StoreStep σ α)
    (w : Watched σ) : (step call method next w).2.calls = call :: w.calls := by
  -- the call is noted first, so it stands there also when the operation is told to fail
  simp only [step]
  split <;> rfl

theorem noted_step {call : StoreCall} (method : StoreMethod) (next : StoreStep σ α)
    (noted : Noted P before w) (holds : P call) : Noted P before (step call method next w).2 := by
  obtain ⟨made, calls, every⟩ := noted
  refine ⟨call :: made, by rw [step_calls, calls, List.cons_append], ?_⟩
  intro other member
  cases member with
  | head => exact holds
  | tail _ member => exact every other member

end Watched

/-- A client of a recorded store. -/
abbrev Client.recorded (settings : Settings) (store : Store σ) : Client (Watched σ) :=
  ⟨settings, store.watched⟩

/-! ## Steps -/

namespace Call

variable {inv inv' : Session σ → Prop} {first : Call σ α} {next : α → Call σ β}
  {mid mid' : α → Prop} {post : β → Prop}

/-- The step keeps an invariant of the session, and every result of it satisfies `post`. -/
def Keeps (inv : Session σ → Prop) (call : Call σ α) (post : α → Prop) : Prop :=
  ∀ s, inv s → inv (call s).2 ∧ ∀ a, (call s).1 = .ok a → post a

theorem keeps_pure {a : α} (holds : mid a) : Keeps inv (pure a : Call σ α) mid := by
  intro s before
  refine ⟨before, fun b same => ?_⟩
  cases same
  exact holds

theorem keeps_bind (start : Keeps inv first mid) (goesOn : ∀ a, mid a → Keeps inv (next a) post) :
    Keeps inv (first >>= next) post := by
  intro s before
  obtain ⟨kept, results⟩ := start s before
  change inv (andThen first next s).2 ∧ ∀ b, (andThen first next s).1 = .ok b → post b
  unfold andThen
  cases outcome : first s with
  | mk result after =>
    rw [outcome] at kept results
    cases result with
    | ok a => exact goesOn a (results a rfl) after kept
    | error e => exact ⟨kept, fun b same => by cases same⟩

theorem bind_error {e : SqlError} {s after : Session σ} (failed : first s = (.error e, after)) :
    (first >>= next) s = (.error e, after) := by
  change andThen first next s = (.error e, after)
  rw [andThen, failed]

theorem Keeps.mono (keeps : Keeps inv first mid) (weaker : ∀ a, mid a → mid' a) :
    Keeps inv first mid' :=
  fun s before => ⟨(keeps s before).1, fun a result => weaker a ((keeps s before).2 a result)⟩

theorem Keeps.and (one : Keeps inv first mid) (other : Keeps inv' first mid') :
    Keeps (fun s => inv s ∧ inv' s) first fun a => mid a ∧ mid' a :=
  fun s before =>
    ⟨⟨(one s before.1).1, (other s before.2).1⟩,
      fun a result => ⟨(one s before.1).2 a result, (other s before.2).2 a result⟩⟩

theorem keeps_ofExcept (result : Except SqlError α) :
    Keeps inv (ofExcept result) fun a => result = .ok a :=
  fun _ before => ⟨before, fun _ same => same⟩

/-! ## What the store keeps

An invariant of the store alone is kept by the steps that do not ask it. -/

variable {client : Client σ} {R : σ → Prop}

theorem stored_cachedPlan (client : Client σ) (slot : Slot α)
    (extract : String → Except SqlError α) (text : String) :
    Keeps (fun s => R s.store) (cachedPlan client slot extract text) fun _ => True :=
  -- plans live in the session beside the store
  fun _ holds => ⟨holds, fun _ _ => trivial⟩

theorem stored_ask {step : StoreStep σ α} (kept : ∀ m, R m → R (step m).2) :
    Keeps (fun s => R s.store) (ask step) fun _ => True := by
  intro s holds
  refine ⟨?_, fun _ _ => trivial⟩
  have after := kept s.store holds
  unfold ask
  split <;> rename_i answered <;> rw [answered] at after <;> exact after

/-- The names of collections are at most listed. -/
theorem stored_refresh {store : Store σ} (listed : ∀ m, R m → R (store.collectionNames m).2)
    (lifetime : Nat) (now : Moment) (cache : CollectionCache) {m : σ} (holds : R m) :
    R (cache.refresh store lifetime now m).2 := by
  unfold CollectionCache.refresh
  split
  · exact holds
  · have after := listed m holds
    split <;> rename_i answered <;> rw [answered] at after <;> exact after

theorem stored_lookUp (listed : ∀ m, R m → R (client.store.collectionNames m).2)
    (table : String) : Keeps (fun s => R s.store) (lookUp client table) fun _ => True := by
  intro s holds
  refine ⟨?_, fun _ _ => trivial⟩
  have after := stored_refresh listed (millis client.settings.collectionLifetime) s.now
    s.caches.collections holds
  simp only [lookUp, CollectionCache.check]
  split <;> rename_i answered <;> rw [answered] at after <;> exact after

/-- A table passes the check only if it is allowed. -/
theorem stored_checkTable (listed : ∀ m, R m → R (client.store.collectionNames m).2)
    (table : String) :
    Keeps (fun s => R s.store) (checkTable client table)
      fun _ => client.settings.isAllowed table = true := by
  unfold checkTable
  split
  · rename_i allowed
    exact keeps_bind (stored_lookUp listed table) fun _ _ => keeps_pure allowed
  · exact (keeps_ofExcept _).mono fun _ same => by cases same

/-! ## What is noted -/

variable {P : StoreCall → Prop} {before : List StoreCall}

/-- The recorder of the session has only noted calls that satisfy `P` since a moment. -/
def NotedSince (P : StoreCall → Prop) (before : List StoreCall) (s : Session (Watched σ)) : Prop :=
  s.store.Noted P before

theorem noted_cachedPlan (client : Client (Watched σ)) (slot : Slot α)
    (extract : String → Except SqlError α) (text : String) :
    Keeps (NotedSince P before) (cachedPlan client slot extract text) fun _ => True :=
  stored_cachedPlan client slot extract text

theorem noted_ask {call : StoreCall} (method : StoreMethod) (operation : StoreStep σ α)
    (holds : P call) :
    Keeps (NotedSince P before) (ask (Watched.step call method operation)) fun _ => True :=
  stored_ask (R := Watched.Noted P before) fun _ noted => Watched.noted_step method operation noted holds

variable {settings : Settings} {store : Store σ}

theorem noted_checkTable (listed : P .list) (table : String) :
    Keeps (NotedSince P before) (checkTable (.recorded settings store) table)
      fun _ => settings.isAllowed table = true :=
  stored_checkTable (R := Watched.Noted P before)
    (fun _ noted => Watched.noted_step .list _ noted listed) table

end Call

end DocQuery

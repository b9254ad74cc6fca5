import DocQuery.Proofs.Client.Calls
import DocQuery.Store.Memory

/-! # Calls that write nothing

The steps of a writing call before the last one only read, and the last one fails with an error of
the store. So a call that fails with another error has not written, and neither has a reading call.

* `Store.ReadsKeep` — what the reading operations of a store leave as it is.
* `Call.Refuses` — a step keeps an invariant if it fails without the store.
* `writes_nothing` — no writing operation is asked for, and what the store holds stays.
-/

namespace DocQuery

variable {σ α β γ : Type}

/-- The operations that do not write leave a view of the state as it is. -/
structure Store.ReadsKeep (store : Store σ) (view : σ → γ) : Prop where
  find : ∀ table query m, view (store.find table query m).2 = view m
  aggregate : ∀ table stages m, view (store.aggregate table stages m).2 = view m
  countDocuments : ∀ table filter m, view (store.countDocuments table filter m).2 = view m
  collectionNames : ∀ m, view (store.collectionNames m).2 = view m

theorem Memory.store_readsKeep (ids : IdSupply) : (store ids).ReadsKeep id where
  find _ _ _ := rfl
  aggregate _ _ _ := rfl
  countDocuments _ _ _ := rfl
  collectionNames _ := rfl

/-- Since a moment the recorder has noted no writing call, and what is seen of the store is what
was seen then. -/
def Watched.Unwritten (view : σ → γ) (start w : Watched σ) : Prop :=
  w.Noted (·.isWrite = false) start.calls ∧ view w.inner = view start.inner

theorem Watched.unwritten_step {view : σ → γ} {start w : Watched σ} (call : StoreCall)
    (method : StoreMethod) {next : StoreStep σ α} (reads : call.isWrite = false)
    (kept : ∀ m, view (next m).2 = view m) (unwritten : Unwritten view start w) :
    Unwritten view start (step call method next w).2 := by
  refine ⟨noted_step method next unwritten.1 reads, ?_⟩
  simp only [step]
  split
  · exact unwritten.2
  · exact (kept w.inner).trans unwritten.2

/-! ## Failing without the store -/

/-- The error comes from the store. -/
def SqlError.isStore : SqlError → Bool
  | .store _ => true
  | _ => false

namespace Call

variable {inv : Session σ → Prop} {first : Call σ α} {next : α → Call σ β} {mid : α → Prop}

/-- The step keeps an invariant whenever it fails with an error that is not one of the store. -/
def Refuses (inv : Session σ → Prop) (call : Call σ α) : Prop :=
  ∀ s, inv s → ∀ e, (call s).1 = .error e → e.isStore = false → inv (call s).2

theorem refuses_bind (start : Keeps inv first mid) (goesOn : ∀ a, mid a → Refuses inv (next a)) :
    Refuses inv (first >>= next) := by
  intro s before e
  obtain ⟨kept, results⟩ := start s before
  change (andThen first next s).1 = .error e → _ → inv (andThen first next s).2
  unfold andThen
  cases outcome : first s with
  | mk result after =>
    rw [outcome] at kept results
    cases result with
    | ok a => exact goesOn a (results a rfl) after kept e
    | error e => exact fun _ _ => kept

/-- A store that is asked fails with errors of its own. -/
theorem refuses_ask (step : StoreStep σ α) : Refuses inv (ask step) := by
  intro s _ e failed notStore
  unfold ask at failed
  split at failed <;> cases failed
  cases notStore

end Call

namespace Client

open Call

variable {settings : Settings} {store : Store σ} {view : σ → γ} {start : Watched σ}
  {sql : String} {params : Parameters}

/-- The steps of reading calls write nothing. -/
theorem unwritten_rules (reads : store.ReadsKeep view) :
    (recorded settings store).ReadingRules fun s => Watched.Unwritten view start s.store where
  selectPlan _ := stored_cachedPlan (R := Watched.Unwritten view start) _ _ _ _
  checkTable table := stored_checkTable (R := Watched.Unwritten view start)
    (fun _ => Watched.unwritten_step .list .list rfl reads.collectionNames) table
  find table query _ := stored_ask (R := Watched.Unwritten view start)
    fun _ => Watched.unwritten_step _ .find rfl (reads.find table query)
  aggregate table stages _ := stored_ask (R := Watched.Unwritten view start)
    fun _ => Watched.unwritten_step _ .aggregate rfl (reads.aggregate table stages)
  countDocuments table filter _ := stored_ask (R := Watched.Unwritten view start)
    fun _ => Watched.unwritten_step _ .count rfl (reads.countDocuments table filter)

variable {client : Client σ} {inv : Session σ → Prop}

theorem refuses_insert (rules : client.ReadingRules inv)
    (plans : Keeps inv (cachedPlan client .inserts extractInsert (cleanStatement sql))
      fun _ => True) : Refuses inv (insert client sql) :=
  refuses_bind (keeps_ofExcept _) fun _ _ => refuses_bind plans fun plan _ =>
    refuses_bind (rules.checkTable plan.table) fun _ _ => refuses_ask _

theorem refuses_update (rules : client.ReadingRules inv)
    (plans : Keeps inv (cachedPlan client .updates extractUpdate (cleanStatement sql))
      fun _ => True) : Refuses inv (update client sql params) :=
  refuses_bind (keeps_ofExcept _) fun _ _ => refuses_bind plans fun plan _ =>
    refuses_bind (rules.checkTable plan.table) fun _ _ =>
      -- the condition is compiled before the store is asked
      refuses_bind (keeps_ofExcept _) fun _ _ => refuses_ask _

theorem refuses_delete (rules : client.ReadingRules inv)
    (plans : Keeps inv (cachedPlan client .deletes extractDelete (cleanStatement sql))
      fun _ => True) : Refuses inv (delete client sql params) :=
  refuses_bind (keeps_ofExcept _) fun _ _ => refuses_bind plans fun plan _ =>
    refuses_bind (rules.checkTable plan.table) fun _ _ =>
      refuses_bind (keeps_ofExcept _) fun _ _ => refuses_ask _

end Client

/-- The operation asks the store to write. -/
def Operation.isWrite : Operation → Bool
  | .insert _ | .update .. | .delete .. => true
  | _ => false

/-- In every session of a client, whatever its settings, its caches and its store: an operation
that reads, whatever it answers, and one that writes but fails with an error that is not one of
the store, have asked for no writing operation, and what the store holds is what it held. -/
theorem writes_nothing {settings : Settings} {store : Store σ} {view : σ → γ}
    (reads : store.ReadsKeep view) (operation : Operation) (s : Session (Watched σ))
    (quiet : operation.isWrite = true →
      ∃ e, (operation.call (Client.recorded settings store) s).1 = .error e ∧
        e.isStore = false) :
    (∃ made,
      (operation.call (Client.recorded settings store) s).2.store.calls = made ++ s.store.calls ∧
      ∀ call ∈ made, call.isWrite = false) ∧
    view (operation.call (Client.recorded settings store) s).2.store.inner =
      view s.store.inner := by
  have start : Watched.Unwritten view s.store s.store := ⟨Watched.noted_self _ s.store, rfl⟩
  have rules : (Client.recorded settings store).ReadingRules
      fun t => Watched.Unwritten view s.store t.store := Client.unwritten_rules reads
  have plans {α : Type} (slot : Call.Slot α) (extract : String → Except SqlError α)
      (text : String) : Call.Keeps (fun t => Watched.Unwritten view s.store t.store)
        (Call.cachedPlan (Client.recorded settings store) slot extract text) fun _ => True :=
    Call.stored_cachedPlan (R := Watched.Unwritten view s.store) _ _ _ _
  cases operation with
  | insert sql =>
    obtain ⟨e, failed, notStore⟩ := quiet rfl
    exact Client.refuses_insert rules (plans _ _ _) s start e failed notStore
  | update sql params =>
    obtain ⟨e, failed, notStore⟩ := quiet rfl
    exact Client.refuses_update rules (plans _ _ _) s start e failed notStore
  | delete sql params =>
    obtain ⟨e, failed, notStore⟩ := quiet rfl
    exact Client.refuses_delete rules (plans _ _ _) s start e failed notStore
  | compileSelect sql => exact (rules.compileSelect s start).1
  | select sql params => exact (rules.select s start).1
  | count sql params => exact (rules.count s start).1
  | singleValue sql params => exact (rules.singleValue s start).1
  | valueList sql params => exact (rules.valueList s start).1
  | scalar sql => exact (rules.scalar s start).1
  | scalarAs sql convert => exact (rules.scalarAs convert s start).1
  | advance time => exact start
  | clearSelects => exact start

/-- A condition that mixes connectors is refused after the table has been looked up, and the
document that is held stays. -/
theorem writes_nothing_for_mixed_connectors :
    let client := Client.recorded (.standard "localhost" "test") (Memory.store fun _ => .nil)
    let s : Session (Watched Memory) :=
      .start (.ofInner ⟨[("table1", [⟨[("a", .int64 1)]⟩])], 0⟩)
    let refused := Operation.update "UPDATE table1 SET a = 2 WHERE a = 1 AND b = 2 OR c = 3" []
    (∃ e, (refused.call client s).1 = .error e ∧ e.isStore = false) ∧
      (∃ made, (refused.call client s).2.store.calls = made ++ s.store.calls ∧
        ∀ call ∈ made, call.isWrite = false) ∧
      (refused.call client s).2.store.inner = s.store.inner := by
  intro client s refused
  -- the statement is a variable here, so that it is evaluated once only
  have whole (sql : String) (answer : (match (client.update sql [] s).1 with
      | .ok _ => true
      | .error e => e.isStore) = false) :
      (∃ e, ((Operation.update sql []).call client s).1 = .error e ∧ e.isStore = false) ∧
      (∃ made, ((Operation.update sql []).call client s).2.store.calls = made ++ s.store.calls ∧
        ∀ call ∈ made, call.isWrite = false) ∧
      ((Operation.update sql []).call client s).2.store.inner = s.store.inner := by
    have fails : ∃ e, ((Operation.update sql []).call client s).1 = .error e ∧
        e.isStore = false := by
      split at answer
      · cases answer
      · rename_i e failed
        exact ⟨e, failed, answer⟩
    exact ⟨fails, writes_nothing (Memory.store_readsKeep _) _ s fun _ => fails⟩
  exact whole _ (by decide +kernel)

end DocQuery

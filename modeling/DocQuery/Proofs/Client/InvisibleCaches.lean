import DocQuery.Proofs.Client.Direct
import DocQuery.Store.Memory

/-! # Invisible caches

A client answers as one that remembers nothing does. The plans that it keeps are those of their
texts, and what it knows about the names of collections has no consequences.

* `Call.Agrees` — a call answers as a direct call does, and leaves the same store.
* `Operation.call_agrees` — every operation agrees with the direct one.
* `Operation.answers_eq` — over any store whose collections can be listed without changing it, a
  run answers as the direct one does.
* `caches_invisible` — the same for the store in memory, from its first call on.
-/

namespace DocQuery

variable {σ α β : Type}

/-- Listing the collections leaves the store as it is. -/
def Store.ListsQuietly (store : Store σ) : Prop := ∀ s, (store.collectionNames s).2 = s

namespace Call

/-- From faithful caches, the call answers as the direct call does and leaves the same store, and
the caches stay faithful. -/
def Agrees (call : Call σ α) (direct : DirectCall σ α) : Prop :=
  ∀ s : Session σ, s.Faithful →
    ((call s).1, (call s).2.store) = direct.run s.store ∧ (call s).2.Faithful

variable {first : Call σ α} {direct : DirectCall σ α} {next : α → Call σ β}
  {directNext : α → DirectCall σ β}

theorem Agrees.run_eq {call : Call σ α} (agrees : Agrees call direct) {s after : Session σ}
    {result : Except SqlError α} (faithful : s.Faithful) (answered : call s = (result, after)) :
    direct.run s.store = (result, after.store) ∧ after.Faithful := by
  obtain ⟨same, kept⟩ := agrees s faithful
  rw [answered] at same kept
  exact ⟨same.symm, kept⟩

/-- A call answers as the direct call does. -/
theorem Agrees.answer_eq {call : Call σ α} (agrees : Agrees call direct) {s : Session σ}
    (faithful : s.Faithful) {result : Except SqlError α} {after : σ}
    (ran : direct.run s.store = (result, after)) : (call s).1 = result :=
  congrArg Prod.fst ((agrees s faithful).1.trans ran)

theorem Agrees.fst_eq {call : Call σ α} (agrees : Agrees call direct) (store : σ) :
    (call (.start store)).1 = (direct.run store).1 :=
  congrArg Prod.fst (agrees (.start store) (Session.faithful_start store)).1

/-- A call ends as the direct call does. -/
theorem Agrees.exists_after {call : Call σ α} (agrees : Agrees call direct) {s : Session σ}
    (faithful : s.Faithful) {result : Except SqlError α} {store : σ}
    (ran : direct.run s.store = (result, store)) :
    ∃ after, call s = (result, after) ∧ after.store = store ∧ after.Faithful := by
  obtain ⟨same, kept⟩ := agrees s faithful
  rw [ran, Prod.mk.injEq] at same
  exact ⟨(call s).2, Prod.ext same.1 rfl, same.2, kept⟩

theorem agrees_pure (a : α) : Agrees (pure a : Call σ α) (pure a) :=
  fun _ faithful => ⟨rfl, faithful⟩

theorem agrees_ofExcept (result : Except SqlError α) :
    Agrees (ofExcept result : Call σ α) (MonadExcept.ofExcept result) := by
  intro s faithful
  cases result <;> exact ⟨rfl, faithful⟩

theorem agrees_bind (start : Agrees first direct) (goesOn : ∀ a, Agrees (next a) (directNext a)) :
    Agrees (first >>= next) (direct >>= directNext) := by
  intro s faithful
  obtain ⟨same, kept⟩ := start s faithful
  change ((andThen first next s).1, (andThen first next s).2.store) =
      (direct >>= directNext).run s.store ∧ (andThen first next s).2.Faithful
  rw [DirectCall.run_bind, ← same, andThen]
  cases outcome : first s with
  | mk result after =>
    rw [outcome] at kept
    cases result with
    | ok a => exact goesOn a after kept
    | error e => exact ⟨rfl, kept⟩

theorem agrees_ask (step : StoreStep σ α) : Agrees (ask step) (DirectCall.ask step) := by
  intro s faithful
  rw [DirectCall.run_ask, ask]
  rcases step s.store with ⟨_ | _, _⟩ <;> exact ⟨rfl, faithful⟩

/-- A plan from a faithful place in the caches is the plan that the text is read to. -/
theorem agrees_cachedPlan (client : Client σ) {slot : Slot α}
    {extract : String → Except SqlError α} (holds : slot.Holds extract) (text : String) :
    Agrees (cachedPlan client slot extract text) (MonadExcept.ofExcept (extract text)) := by
  intro s faithful
  obtain ⟨answer, untouched, kept⟩ := cachedPlan_faithful client holds text faithful
  refine ⟨?_, kept⟩
  rw [answer, untouched]
  cases extract text <;> rfl

theorem refresh_quietly {store : Store σ} (quiet : store.ListsQuietly) (lifetime : Nat)
    (now : Moment) (cache : CollectionCache) (s : σ) :
    (cache.refresh store lifetime now s).2 = s :=
  stored_refresh (fun m same => (quiet m).trans same) lifetime now cache rfl

theorem agrees_checkTable {client : Client σ} (quiet : client.store.ListsQuietly)
    (table : String) :
    Agrees (checkTable client table) (DirectCall.checkTable client.settings table) := by
  unfold checkTable DirectCall.checkTable
  split
  · intro s faithful
    have listed := refresh_quietly quiet (millis client.settings.collectionLifetime) s.now
      s.caches.collections s.store
    have same : (lookUp client table s).2.store = s.store := by
      simp only [lookUp, CollectionCache.check]
      split <;> rename_i answered <;> rw [answered] at listed <;> exact listed
    -- the answer of the look is dropped, and the plans are kept apart from the names
    exact ⟨congrArg (Prod.mk (Except.ok ())) same, { faithful with }⟩
  · exact agrees_ofExcept _

end Call

/-! ## Calls -/

namespace Client

open Call

variable {client : Client σ} {sql : String} {params : Parameters}

theorem agrees_run {next : String → Call σ α} {directNext : String → DirectCall σ α}
    (goesOn : Agrees (next (cleanStatement sql)) (directNext (cleanStatement sql))) :
    Agrees (run client sql next) (Direct.run client sql directNext) :=
  agrees_bind (agrees_ofExcept _) fun _ => goesOn

variable (quiet : client.store.ListsQuietly)

include quiet

theorem agrees_prepareSelect (text : String) :
    Agrees (prepareSelect client text) (Direct.prepareSelect client text) :=
  agrees_bind (agrees_cachedPlan client Slot.selects_holds text) fun plan =>
    agrees_bind (agrees_checkTable quiet plan.table) fun _ => agrees_pure plan

theorem agrees_existsValues (clause : ExistsClause) :
    Agrees (existsValues client clause) (Direct.existsValues client clause) :=
  -- the inner statement comes from the same cache as the outer one
  agrees_bind (agrees_cachedPlan client Slot.selects_holds _) fun inner =>
    agrees_bind (agrees_checkTable quiet inner.table) fun _ =>
      agrees_bind (agrees_ofExcept _) fun _ => agrees_bind (agrees_ask _) fun _ => agrees_pure _

theorem agrees_planExistsValues (plan : SelectPlan) :
    Agrees (planExistsValues client plan) (Direct.planExistsValues client plan) := by
  unfold planExistsValues Direct.planExistsValues
  cases plan.exists_ with
  | none => exact agrees_pure []
  | some clause => exact agrees_existsValues quiet clause

theorem agrees_resolvedFilter (plan : SelectPlan) (params : Parameters) :
    Agrees (resolvedFilter client plan params) (Direct.resolvedFilter client plan params) :=
  agrees_bind (agrees_planExistsValues quiet plan) fun _ => agrees_ofExcept _

omit quiet in
theorem agrees_runScalar (table : String) (stages : Pipeline) (label : String) (isCount : Bool) :
    Agrees (runScalar client table stages label isCount)
      (Direct.runScalar client table stages label isCount) :=
  agrees_bind (agrees_ask _) fun _ => agrees_pure _

omit quiet in
theorem agrees_runPlan (plan : SelectPlan) (query : QueryPlan) :
    Agrees (runPlan client plan query) (Direct.runPlan client plan query) := by
  cases query with
  | find query => exact agrees_ask _
  | aggregate stages => exact agrees_ask _
  | scalar stages label => exact agrees_bind (agrees_runScalar _ _ _ _) fun _ => agrees_pure _

theorem agrees_compileSelect :
    Agrees (compileSelect client sql) (Direct.compileSelect client sql) :=
  agrees_run (agrees_prepareSelect quiet _)

theorem agrees_select : Agrees (select client sql params) (Direct.select client sql params) :=
  agrees_run <| agrees_bind (agrees_prepareSelect quiet _) fun plan =>
    agrees_bind (agrees_planExistsValues quiet plan) fun _ =>
      agrees_bind (agrees_ofExcept _) fun query =>
        agrees_bind (agrees_runPlan plan query) fun _ => agrees_pure _

theorem agrees_count : Agrees (count client sql params) (Direct.count client sql params) :=
  agrees_run <| agrees_bind (agrees_prepareSelect quiet _) fun plan =>
    agrees_bind (agrees_resolvedFilter quiet plan params) fun _ => agrees_ask _

theorem agrees_singleValue :
    Agrees (singleValue client sql params) (Direct.singleValue client sql params) := by
  refine agrees_run <| agrees_bind (agrees_prepareSelect quiet _) fun plan =>
    agrees_bind (agrees_resolvedFilter quiet plan params) fun filter => ?_
  -- a count, another function, or a plain column
  cases plan.aggregate with
  | some call =>
    cases call with
    | count label => exact agrees_bind (agrees_ask _) fun _ => agrees_pure _
    | apply function field label =>
      exact agrees_bind (agrees_ofExcept _) fun _ =>
        agrees_bind (agrees_runScalar _ _ _ _) fun _ => agrees_pure _
  | none =>
    exact agrees_bind (agrees_ofExcept _) fun _ => agrees_bind (agrees_ask _) fun _ => agrees_pure _

theorem agrees_valueList :
    Agrees (valueList client sql params) (Direct.valueList client sql params) :=
  agrees_run <| agrees_bind (agrees_prepareSelect quiet _) fun plan =>
    agrees_bind (agrees_ofExcept _) fun _ =>
      agrees_bind (agrees_resolvedFilter quiet plan params) fun _ =>
        agrees_bind (agrees_ofExcept _) fun _ => agrees_bind (agrees_ask _) fun _ => agrees_pure _

theorem agrees_scalar : Agrees (scalar client sql) (Direct.scalar client sql) :=
  agrees_bind (agrees_select quiet) fun _ => agrees_pure _

theorem agrees_scalarAs (convert : Value → Except SqlError α) :
    Agrees (scalarAs client sql convert) (Direct.scalarAs client sql convert) := by
  refine agrees_bind (agrees_scalar quiet) fun value => ?_
  cases value with
  | none => exact agrees_pure none
  | some value => exact agrees_bind (agrees_ofExcept _) fun _ => agrees_pure _

theorem agrees_insert : Agrees (insert client sql) (Direct.insert client sql) :=
  agrees_run <| agrees_bind (agrees_cachedPlan client Slot.inserts_holds _) fun plan =>
    agrees_bind (agrees_checkTable quiet plan.table) fun _ => agrees_ask _

theorem agrees_update : Agrees (update client sql params) (Direct.update client sql params) :=
  agrees_run <| agrees_bind (agrees_cachedPlan client Slot.updates_holds _) fun plan =>
    agrees_bind (agrees_checkTable quiet plan.table) fun _ =>
      agrees_bind (agrees_ofExcept _) fun _ => agrees_ask _

theorem agrees_delete : Agrees (delete client sql params) (Direct.delete client sql params) :=
  agrees_run <| agrees_bind (agrees_cachedPlan client Slot.deletes_holds _) fun plan =>
    agrees_bind (agrees_checkTable quiet plan.table) fun _ =>
      agrees_bind (agrees_ofExcept _) fun _ => agrees_ask _

end Client

/-! ## Runs -/

namespace Operation

open Client

variable {client : Client σ}

/-- One operation agrees with the direct one; time and the clearing of plans are not noticed. -/
theorem call_agrees (quiet : client.store.ListsQuietly) (operation : Operation) :
    (operation.call client).Agrees (Direct.call client operation) := by
  cases operation with
  | compileSelect sql => exact agrees_compileSelect quiet
  | select sql params => exact agrees_select quiet
  | insert sql => exact agrees_insert quiet
  | update sql params => exact agrees_update quiet
  | delete sql params => exact agrees_delete quiet
  | count sql params => exact agrees_count quiet
  | singleValue sql params => exact agrees_singleValue quiet
  | valueList sql params => exact agrees_valueList quiet
  | scalar sql => exact agrees_scalar quiet
  | scalarAs sql convert => exact agrees_scalarAs quiet convert
  | advance time => exact fun _ faithful => ⟨rfl, faithful⟩
  | clearSelects =>
    exact fun _ faithful => ⟨rfl, { faithful with selects := PlanCache.faithful_clear _ _ }⟩

/-- From faithful caches, a run answers as the direct run does, and leaves the same stores. -/
theorem answers_eq (quiet : client.store.ListsQuietly) (operations : List Operation)
    {s : Session σ} (faithful : s.Faithful) :
    answers client operations s = Direct.answers client operations s.store := by
  induction operations generalizing s with
  | nil => rfl
  | cons operation rest ih =>
    obtain ⟨same, kept⟩ := call_agrees quiet operation s faithful
    simp only [answers, Direct.answers]
    rw [← same, ih kept]

end Operation

/-- A client of the store in memory answers every run of calls, of passing time and of cleared
plans as the client that remembers nothing does, call by call: with the same values, the same
errors and the same documents left behind, given the same supply of identifiers. -/
theorem caches_invisible (settings : Settings) (ids : IdSupply) (operations : List Operation)
    (m : Memory) :
    Operation.answers ⟨settings, Memory.store ids⟩ operations (Session.start m) =
      Direct.answers ⟨settings, Memory.store ids⟩ operations m :=
  Operation.answers_eq (fun _ => rfl) operations (Session.faithful_start m)

end DocQuery

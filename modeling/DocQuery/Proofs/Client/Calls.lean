import DocQuery.Proofs.Client.Steps

/-! # Reasoning about calls and runs

An invariant that the steps of calls keep is kept by whole calls and by runs of them. The steps
are listed once; each call is followed once. So the store is only asked about collections that the
settings allow, whatever the statements, the caches and the store do.

* `Client.ReadingRules`, `Client.Rules` — an invariant is kept by every step that a call can take.
* `Operation` — what a caller can ask of a client, and what can happen between two calls.
* `Operation.runAll` — a whole run.
* `Operation.runAll_keeps` — what steps keep, runs keep.
* `Settings.Permits` — the store calls that the settings allow.
* `store_calls_permitted` — every store call of a run is permitted, and a refused statement makes
  none.
-/

namespace DocQuery

variable {σ α : Type}

namespace Client

open Call

variable {client : Client σ} {inv : Session σ → Prop} {sql : String} {params : Parameters}

/-! ## The frame of a call -/

theorem run_refused {e : SqlError}
    (refused : checkStatement client.settings.forbidCastSort sql = .error e)
    (next : String → Call σ α) (s : Session σ) : run client sql next s = (.error e, s) := by
  change andThen (Call.ofExcept (checkStatement client.settings.forbidCastSort sql))
    (fun _ => next (cleanStatement sql)) s = (.error e, s)
  rw [refused]
  rfl

theorem keeps_run {next : String → Call σ α} {post : α → Prop}
    (keeps : Keeps inv (next (cleanStatement sql)) post) : Keeps inv (run client sql next) post :=
  keeps_bind (keeps_ofExcept _) fun _ _ => keeps

/-! ## Reading calls -/

/-- The steps of reading calls keep an invariant. The store is asked about allowed tables only. -/
structure ReadingRules (client : Client σ) (inv : Session σ → Prop) : Prop where
  selectPlan : ∀ text, Keeps inv (cachedPlan client .selects extractSelect text) fun _ => True
  checkTable : ∀ table, Keeps inv (Call.checkTable client table)
    fun _ => client.settings.isAllowed table = true
  find : ∀ table query, client.settings.isAllowed table = true →
    Keeps inv (ask (client.store.find table query)) fun _ => True
  aggregate : ∀ table stages, client.settings.isAllowed table = true →
    Keeps inv (ask (client.store.aggregate table stages)) fun _ => True
  countDocuments : ∀ table filter, client.settings.isAllowed table = true →
    Keeps inv (ask (client.store.countDocuments table filter)) fun _ => True

namespace ReadingRules

variable (rules : ReadingRules client inv)

include rules

theorem prepareSelect (text : String) :
    Keeps inv (prepareSelect client text) fun plan => client.settings.isAllowed plan.table = true :=
  keeps_bind (rules.selectPlan text) fun plan _ =>
    keeps_bind (rules.checkTable plan.table) fun _ allowed => keeps_pure allowed

theorem existsValues (clause : ExistsClause) :
    Keeps inv (existsValues client clause) fun _ => True :=
  -- the inner table is checked under the very name that the store is then asked for
  keeps_bind (rules.selectPlan _) fun inner _ =>
    keeps_bind (rules.checkTable inner.table) fun _ allowed =>
      keeps_bind (keeps_ofExcept _) fun _ _ =>
        keeps_bind (rules.find inner.table _ allowed) fun _ _ => keeps_pure trivial

theorem planExistsValues (plan : SelectPlan) :
    Keeps inv (planExistsValues client plan) fun _ => True := by
  unfold Client.planExistsValues
  cases plan.exists_ with
  | none => exact keeps_pure trivial
  | some clause => exact rules.existsValues clause

theorem resolvedFilter (plan : SelectPlan) (params : Parameters) :
    Keeps inv (resolvedFilter client plan params) fun _ => True :=
  keeps_bind (rules.planExistsValues plan) fun _ _ => (keeps_ofExcept _).mono fun _ _ => trivial

theorem runScalar {table : String} (allowed : client.settings.isAllowed table = true)
    (stages : Pipeline) (label : String) (isCount : Bool) :
    Keeps inv (runScalar client table stages label isCount) fun _ => True :=
  keeps_bind (rules.aggregate table stages allowed) fun _ _ => keeps_pure trivial

theorem runPlan {plan : SelectPlan} (allowed : client.settings.isAllowed plan.table = true)
    (query : QueryPlan) : Keeps inv (runPlan client plan query) fun _ => True := by
  cases query with
  | find query => exact rules.find plan.table query allowed
  | aggregate stages => exact rules.aggregate plan.table stages allowed
  | scalar stages label =>
    exact keeps_bind (rules.runScalar allowed stages label _) fun _ _ => keeps_pure trivial

theorem compileSelect : Keeps inv (compileSelect client sql) fun _ => True :=
  keeps_run ((rules.prepareSelect _).mono fun _ _ => trivial)

theorem select : Keeps inv (select client sql params) fun _ => True :=
  keeps_run <| keeps_bind (rules.prepareSelect _) fun plan allowed =>
    keeps_bind (rules.planExistsValues plan) fun _ _ =>
      keeps_bind (keeps_ofExcept _) fun query _ =>
        keeps_bind (rules.runPlan allowed query) fun _ _ => keeps_pure trivial

theorem count : Keeps inv (count client sql params) fun _ => True :=
  keeps_run <| keeps_bind (rules.prepareSelect _) fun plan allowed =>
    keeps_bind (rules.resolvedFilter plan params) fun filter _ =>
      rules.countDocuments plan.table filter allowed

theorem singleValue : Keeps inv (singleValue client sql params) fun _ => True := by
  refine keeps_run <| keeps_bind (rules.prepareSelect _) fun plan allowed =>
    keeps_bind (rules.resolvedFilter plan params) fun filter _ => ?_
  -- a count, another function, or a plain column
  split
  · exact keeps_bind (rules.countDocuments plan.table filter allowed) fun _ _ => keeps_pure trivial
  · exact keeps_bind (keeps_ofExcept _) fun _ _ =>
      keeps_bind (rules.runScalar allowed _ _ _) fun _ _ => keeps_pure trivial
  · exact keeps_bind (keeps_ofExcept _) fun _ _ =>
      keeps_bind (rules.find plan.table _ allowed) fun _ _ => keeps_pure trivial

theorem valueList : Keeps inv (valueList client sql params) fun _ => True :=
  keeps_run <| keeps_bind (rules.prepareSelect _) fun plan allowed =>
    keeps_bind (keeps_ofExcept _) fun _ _ =>
      keeps_bind (rules.resolvedFilter plan params) fun _ _ =>
        keeps_bind (keeps_ofExcept _) fun _ _ =>
          keeps_bind (rules.find plan.table _ allowed) fun _ _ => keeps_pure trivial

theorem scalar : Keeps inv (scalar client sql) fun _ => True :=
  keeps_bind rules.select fun _ _ => keeps_pure trivial

theorem scalarAs (convert : Value → Except SqlError α) :
    Keeps inv (scalarAs client sql convert) fun _ => True := by
  refine keeps_bind rules.scalar fun value _ => ?_
  cases value with
  | none => exact keeps_pure trivial
  | some value => exact keeps_bind (keeps_ofExcept _) fun _ _ => keeps_pure trivial

end ReadingRules

/-! ## Writing calls -/

theorem keeps_insert {origin : InsertPlan → Prop}
    (cached : Keeps inv (cachedPlan client .inserts extractInsert (cleanStatement sql)) origin)
    (checked : ∀ table, Keeps inv (Call.checkTable client table)
      fun _ => client.settings.isAllowed table = true)
    (asked : ∀ plan, origin plan → client.settings.isAllowed plan.table = true →
      Keeps inv (ask (client.store.insertMany plan.table
        (plan.rows.map (rowDocument plan.columns)))) fun _ => True) :
    Keeps inv (insert client sql) fun _ => True :=
  keeps_run <| keeps_bind cached fun plan comes =>
    keeps_bind (checked plan.table) fun _ allowed => asked plan comes allowed

theorem keeps_update {origin : UpdatePlan → Prop}
    (cached : Keeps inv (cachedPlan client .updates extractUpdate (cleanStatement sql)) origin)
    (checked : ∀ table, Keeps inv (Call.checkTable client table)
      fun _ => client.settings.isAllowed table = true)
    (asked : ∀ plan filter set, origin plan → client.settings.isAllowed plan.table = true →
      whereFilter plan.predicate params = .ok filter →
      Keeps inv (ask (client.store.updateMany plan.table filter set)) fun _ => True) :
    Keeps inv (update client sql params) fun _ => True :=
  keeps_run <| keeps_bind cached fun plan comes =>
    keeps_bind (checked plan.table) fun _ allowed =>
      keeps_bind (keeps_ofExcept _) fun filter compiled =>
        asked plan filter _ comes allowed compiled

theorem keeps_delete {origin : DeletePlan → Prop}
    (cached : Keeps inv (cachedPlan client .deletes extractDelete (cleanStatement sql)) origin)
    (checked : ∀ table, Keeps inv (Call.checkTable client table)
      fun _ => client.settings.isAllowed table = true)
    (asked : ∀ plan filter, origin plan → client.settings.isAllowed plan.table = true →
      whereFilter plan.predicate params = .ok filter →
      Keeps inv (ask (client.store.deleteMany plan.table filter)) fun _ => True) :
    Keeps inv (delete client sql params) fun _ => True :=
  keeps_run <| keeps_bind cached fun plan comes =>
    keeps_bind (checked plan.table) fun _ allowed =>
      keeps_bind (keeps_ofExcept _) fun filter compiled => asked plan filter comes allowed compiled

/-- All steps of calls, and what can happen between calls, keep an invariant. -/
structure Rules (client : Client σ) (inv : Session σ → Prop) : Prop
    extends ReadingRules client inv where
  insertPlan : ∀ text, Keeps inv (cachedPlan client .inserts extractInsert text) fun _ => True
  updatePlan : ∀ text, Keeps inv (cachedPlan client .updates extractUpdate text) fun _ => True
  deletePlan : ∀ text, Keeps inv (cachedPlan client .deletes extractDelete text) fun _ => True
  insertMany : ∀ table docs, client.settings.isAllowed table = true →
    Keeps inv (ask (client.store.insertMany table docs)) fun _ => True
  updateMany : ∀ table filter set, client.settings.isAllowed table = true →
    Keeps inv (ask (client.store.updateMany table filter set)) fun _ => True
  deleteMany : ∀ table filter, client.settings.isAllowed table = true →
    Keeps inv (ask (client.store.deleteMany table filter)) fun _ => True
  advance : ∀ s time, inv s → inv (s.advance time)
  clearSelects : ∀ s, inv s → inv s.clearSelects

end Client

/-! ## Runs -/

/-- A call of a client, or an event between two calls. -/
inductive Operation : Type 1
  | compileSelect (sql : String)
  | select (sql : String) (params : Parameters)
  | insert (sql : String)
  | update (sql : String) (params : Parameters)
  | delete (sql : String) (params : Parameters)
  | count (sql : String) (params : Parameters)
  | singleValue (sql : String) (params : Parameters)
  | valueList (sql : String) (params : Parameters)
  | scalar (sql : String)
  | scalarAs {α : Type} (sql : String) (convert : Value → Except SqlError α)
  /-- Time passes. -/
  | advance (time : Nat)
  /-- The plans of SELECT statements are forgotten. -/
  | clearSelects

namespace Operation

/-- What an operation answers when it succeeds. -/
def Answer : Operation → Type
  | .compileSelect _ => SelectPlan
  | .select .. => ResultTable
  | .insert _ | .update .. | .delete .. | .count .. => Nat
  | .singleValue .. | .scalar _ => Option Value
  | .valueList .. => List Value
  | @scalarAs α _ _ => Option α
  | .advance _ | .clearSelects => Unit

def statement? : Operation → Option String
  | .compileSelect sql | .select sql _ | .insert sql | .update sql _ | .delete sql _
  | .count sql _ | .singleValue sql _ | .valueList sql _ | .scalar sql | .scalarAs sql _ =>
    some sql
  | .advance _ | .clearSelects => none

def call (client : Client σ) : (operation : Operation) → Call σ operation.Answer
  | .compileSelect sql => client.compileSelect sql
  | .select sql params => client.select sql params
  | .insert sql => client.insert sql
  | .update sql params => client.update sql params
  | .delete sql params => client.delete sql params
  | .count sql params => client.count sql params
  | .singleValue sql params => client.singleValue sql params
  | .valueList sql params => client.valueList sql params
  | .scalar sql => client.scalar sql
  | .scalarAs sql convert => client.scalarAs sql convert
  | .advance time => fun s => (.ok (), s.advance time)
  | .clearSelects => fun s => (.ok (), s.clearSelects)

/-- The session after operations in order, failed ones included. -/
def runAll (client : Client σ) : List Operation → Session σ → Session σ
  | [], s => s
  | operation :: rest, s => runAll client rest (operation.call client s).2

variable {client : Client σ} {inv : Session σ → Prop}

/-- One operation keeps what all steps keep. -/
theorem call_keeps (rules : client.Rules inv) (operation : Operation) {s : Session σ}
    (holds : inv s) : inv (operation.call client s).2 := by
  have reading := rules.toReadingRules
  cases operation with
  | compileSelect sql => exact (reading.compileSelect s holds).1
  | select sql params => exact (reading.select s holds).1
  | insert sql =>
    exact (Client.keeps_insert (rules.insertPlan _) rules.checkTable
      (fun _ _ allowed => rules.insertMany _ _ allowed) s holds).1
  | update sql params =>
    exact (Client.keeps_update (rules.updatePlan _) rules.checkTable
      (fun _ _ _ _ allowed _ => rules.updateMany _ _ _ allowed) s holds).1
  | delete sql params =>
    exact (Client.keeps_delete (rules.deletePlan _) rules.checkTable
      (fun _ _ _ allowed _ => rules.deleteMany _ _ allowed) s holds).1
  | count sql params => exact (reading.count s holds).1
  | singleValue sql params => exact (reading.singleValue s holds).1
  | valueList sql params => exact (reading.valueList s holds).1
  | scalar sql => exact (reading.scalar s holds).1
  | scalarAs sql convert => exact (reading.scalarAs convert s holds).1
  | advance time => exact rules.advance s time holds
  | clearSelects => exact rules.clearSelects s holds

/-- A run keeps what all steps keep. -/
theorem runAll_keeps (rules : client.Rules inv) (operations : List Operation) {s : Session σ}
    (holds : inv s) : inv (runAll client operations s) := by
  induction operations generalizing s with
  | nil => exact holds
  | cons operation rest ih => exact ih (call_keeps rules operation holds)

/-- An operation whose statement is refused fails with the reason and leaves the session alone. -/
theorem call_refused {operation : Operation} {sql : String} {e : SqlError}
    (asked : operation.statement? = some sql)
    (refused : checkStatement client.settings.forbidCastSort sql = .error e) (s : Session σ) :
    operation.call client s = (.error e, s) := by
  cases operation with
  | compileSelect _ =>
    cases asked
    exact Client.run_refused refused _ s
  | scalar _ =>
    cases asked
    exact Call.bind_error (Client.run_refused refused _ s)
  | scalarAs _ _ =>
    cases asked
    exact Call.bind_error (Call.bind_error (Client.run_refused refused _ s))
  | advance _ | clearSelects => cases asked
  | _ =>
    -- the other calls are a checked frame around their steps, and nothing else
    cases asked
    simp only [call, Client.select, Client.insert, Client.update, Client.delete, Client.count,
      Client.singleValue, Client.valueList, Client.run_refused refused]
    rfl

end Operation

/-! ## Allowed tables -/

/-- The settings allow the collection that a store call names, if it names one. -/
def Settings.Permits (settings : Settings) (call : StoreCall) : Prop :=
  ∀ table, call.collection? = some table → settings.isAllowed table = true

theorem Settings.permits_of_collection {settings : Settings} {call : StoreCall} {table : String}
    (named : call.collection? = some table) (allowed : settings.isAllowed table = true) :
    settings.Permits call := by
  intro other same
  rw [named] at same
  cases same
  exact allowed

theorem Settings.permits_list (settings : Settings) : settings.Permits .list := by
  intro table named
  cases named

namespace Client

open Call

/-- Each step asks the store about tables that have passed the check. -/
theorem permitted_rules (settings : Settings) (store : Store σ) (before : List StoreCall) :
    (recorded settings store).Rules (NotedSince settings.Permits before) where
  selectPlan _ := noted_cachedPlan _ _ _ _
  insertPlan _ := noted_cachedPlan _ _ _ _
  updatePlan _ := noted_cachedPlan _ _ _ _
  deletePlan _ := noted_cachedPlan _ _ _ _
  checkTable table := noted_checkTable settings.permits_list table
  find _ _ allowed := noted_ask _ _ (Settings.permits_of_collection rfl allowed)
  aggregate _ _ allowed := noted_ask _ _ (Settings.permits_of_collection rfl allowed)
  countDocuments _ _ allowed := noted_ask _ _ (Settings.permits_of_collection rfl allowed)
  insertMany _ _ allowed := noted_ask _ _ (Settings.permits_of_collection rfl allowed)
  updateMany _ _ _ allowed := noted_ask _ _ (Settings.permits_of_collection rfl allowed)
  deleteMany _ _ allowed := noted_ask _ _ (Settings.permits_of_collection rfl allowed)
  advance _ _ noted := noted
  clearSelects _ noted := noted

end Client

/-- In every run of a client, whatever its settings, its store and the state it starts in, each
store call that is made names an allowed table, if it names any; and an operation whose statement
is refused fails with the reason, makes no store call and changes nothing. -/
theorem store_calls_permitted (settings : Settings) (store : Store σ)
    (operations : List Operation) (s : Session (Watched σ)) :
    (∃ made,
      (Operation.runAll (Client.recorded settings store) operations s).store.calls =
        made ++ s.store.calls ∧
      ∀ call ∈ made, ∀ table, call.collection? = some table → settings.isAllowed table = true) ∧
    ∀ (operation : Operation) (sql : String) (e : SqlError) (s : Session (Watched σ)),
      operation.statement? = some sql →
      checkStatement settings.forbidCastSort sql = .error e →
      operation.call (Client.recorded settings store) s = (.error e, s) := by
  constructor
  · exact Operation.runAll_keeps (Client.permitted_rules settings store s.store.calls) operations
      (Watched.noted_self _ s.store)
  · intro operation sql e s asked refused
    exact Operation.call_refused asked refused s

end DocQuery

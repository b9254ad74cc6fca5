import DocQuery.Proofs.Client.Calls

/-! # Cached plans

A plan that comes from the caches is the plan that its text compiles to, however old it is and
whatever was asked before.

* `PlanCache.Faithful`, `Caches.Faithful` — all plans that are kept are those of their texts.
* `PlanCache.Faithful.get` — asking a faithful cache is compiling.
* `Client.faithful_rules` — every step of a client keeps its caches faithful.
-/

namespace DocQuery

variable {σ α ε : Type}

namespace PlanCache

variable {cache : PlanCache α} {compile : String → Except ε α}

/-- Every plan that is kept is what its text compiles to. -/
def Faithful (compile : String → Except ε α) (cache : PlanCache α) : Prop :=
  ∀ text entry, cache.entries.get? text = some entry → compile text = .ok entry.plan

theorem faithful_empty (compile : String → Except ε α) : Faithful compile .empty := by
  intro text entry found
  cases found

theorem faithful_clear (compile : String → Except ε α) (cache : PlanCache α) :
    Faithful compile cache.clear := by
  intro text entry found
  cases found

theorem Faithful.get (faithful : Faithful compile cache) (lifetime : Nat) (now : Moment)
    (text : String) :
    (cache.get lifetime now compile text).1 = compile text ∧
      Faithful compile (cache.get lifetime now compile text).2 := by
  unfold PlanCache.get
  cases kept : cache.fresh? lifetime now text with
  | some plan =>
    -- how old the entry is does not matter, only that it was stored under this text
    simp only [fresh?, Option.map_eq_some_iff, Option.filter_eq_some_iff] at kept
    obtain ⟨entry, ⟨found, -⟩, rfl⟩ := kept
    exact ⟨(faithful text entry found).symm, faithful⟩
  | none =>
    cases compiled : compile text with
    | error e => exact ⟨rfl, faithful⟩
    | ok plan =>
      refine ⟨rfl, fun other entry found => ?_⟩
      by_cases same : other = text
      · subst same
        rw [Named.get?_insert_self] at found
        cases found
        exact compiled
      · rw [Named.get?_insert_of_ne same] at found
        exact faithful other entry found

end PlanCache

/-- The four kinds of plans are all those of their texts. -/
structure Caches.Faithful (caches : Caches) : Prop where
  selects : caches.selects.Faithful extractSelect
  inserts : caches.inserts.Faithful extractInsert
  updates : caches.updates.Faithful extractUpdate
  deletes : caches.deletes.Faithful extractDelete

def Session.Faithful (s : Session σ) : Prop := s.caches.Faithful

theorem Session.faithful_start (store : σ) : (Session.start store).Faithful where
  selects := PlanCache.faithful_empty _
  inserts := PlanCache.faithful_empty _
  updates := PlanCache.faithful_empty _
  deletes := PlanCache.faithful_empty _

namespace Call

variable {client : Client σ}

/-- A place in the caches holds the plans of one reader, apart from the other places. -/
structure Slot.Holds (slot : Slot α) (extract : String → Except SqlError α) : Prop where
  faithful_get : ∀ caches : Caches, caches.Faithful → (slot.get caches).Faithful extract
  faithful_set : ∀ (caches : Caches) (cache : PlanCache α), caches.Faithful →
    cache.Faithful extract → (slot.set cache caches).Faithful

theorem Slot.selects_holds : Slot.selects.Holds extractSelect where
  faithful_get _ faithful := faithful.selects
  faithful_set _ _ faithful kept := { faithful with selects := kept }

theorem Slot.inserts_holds : Slot.inserts.Holds extractInsert where
  faithful_get _ faithful := faithful.inserts
  faithful_set _ _ faithful kept := { faithful with inserts := kept }

theorem Slot.updates_holds : Slot.updates.Holds extractUpdate where
  faithful_get _ faithful := faithful.updates
  faithful_set _ _ faithful kept := { faithful with updates := kept }

theorem Slot.deletes_holds : Slot.deletes.Holds extractDelete where
  faithful_get _ faithful := faithful.deletes
  faithful_set _ _ faithful kept := { faithful with deletes := kept }

/-- The answer is what the text is read to, the store is not touched, and the caches stay
faithful. -/
theorem cachedPlan_faithful (client : Client σ) {slot : Slot α}
    {extract : String → Except SqlError α} (holds : slot.Holds extract) (text : String) {s : Session σ} (faithful : s.Faithful) :
    (cachedPlan client slot extract text s).1 = extract text ∧
      (cachedPlan client slot extract text s).2.store = s.store ∧
      (cachedPlan client slot extract text s).2.Faithful := by
  obtain ⟨answer, kept⟩ :=
    (holds.faithful_get s.caches faithful).get (millis client.settings.planLifetime) s.now text
  exact ⟨answer, rfl, holds.faithful_set s.caches _ faithful kept⟩

theorem faithful_cachedPlan {slot : Slot α} {extract : String → Except SqlError α}
    (holds : slot.Holds extract) (text : String) :
    Keeps Session.Faithful (cachedPlan client slot extract text)
      fun plan => extract text = .ok plan := by
  intro s faithful
  obtain ⟨answer, -, kept⟩ := cachedPlan_faithful client holds text faithful
  exact ⟨kept, fun plan found => answer.symm.trans found⟩

theorem faithful_ask (step : StoreStep σ α) :
    Keeps Session.Faithful (ask step) fun _ => True := by
  intro s faithful
  refine ⟨?_, fun _ _ => trivial⟩
  unfold ask
  split <;> exact faithful

theorem faithful_checkTable (table : String) :
    Keeps Session.Faithful (checkTable client table)
      fun _ => client.settings.isAllowed table = true := by
  unfold checkTable
  split
  · rename_i allowed
    -- the names of collections are cached apart from the plans
    have looked : Keeps Session.Faithful (lookUp client table) fun _ => True :=
      fun _ faithful => ⟨{ faithful with }, fun _ _ => trivial⟩
    exact keeps_bind looked fun _ _ => keeps_pure allowed
  · exact (keeps_ofExcept _).mono fun _ same => by cases same

end Call

open Call in
/-- Every step keeps the caches faithful. -/
theorem Client.faithful_rules (client : Client σ) : client.Rules Session.Faithful where
  selectPlan text := (faithful_cachedPlan Slot.selects_holds text).mono fun _ _ => trivial
  insertPlan text := (faithful_cachedPlan Slot.inserts_holds text).mono fun _ _ => trivial
  updatePlan text := (faithful_cachedPlan Slot.updates_holds text).mono fun _ _ => trivial
  deletePlan text := (faithful_cachedPlan Slot.deletes_holds text).mono fun _ _ => trivial
  checkTable := faithful_checkTable
  find _ _ _ := faithful_ask _
  aggregate _ _ _ := faithful_ask _
  countDocuments _ _ _ := faithful_ask _
  insertMany _ _ _ := faithful_ask _
  updateMany _ _ _ _ := faithful_ask _
  deleteMany _ _ _ := faithful_ask _
  advance _ _ faithful := faithful
  clearSelects _ faithful := { faithful with selects := PlanCache.faithful_clear _ _ }

/-- In every session that a client can reach, the caches are faithful. -/
theorem Operation.runAll_faithful (client : Client σ) (operations : List Operation) (store : σ) :
    (Operation.runAll client operations (Session.start store)).Faithful :=
  Operation.runAll_keeps client.faithful_rules operations (Session.faithful_start store)

end DocQuery

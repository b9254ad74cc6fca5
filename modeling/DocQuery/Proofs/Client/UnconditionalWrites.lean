import DocQuery.Proofs.Client.CachedPlans
import DocQuery.Proofs.Condition.Blank
import DocQuery.Proofs.Statement.WhereClause
import DocQuery.Store.Memory

/-! # Unconditional writes

An UPDATE or a DELETE that is run without a condition touches every document of its table. The
words of the statement decide whether it is, whatever was asked before and whatever the parameters.

* `StoreCall.write?` — the collection and the filter of a store call that changes or removes.
* `unconditional_write_iff` — when such a call has the empty filter.
-/

namespace DocQuery

open DocQuery.Text

variable {σ : Type} {sql : String} {params : Parameters} {filter : Filter}

/-- The collection and the filter of a call that changes or removes the documents it selects. -/
def StoreCall.write? : StoreCall → Option (String × Filter)
  | .update c filter _ | .delete c filter => some (c, filter)
  | _ => none

namespace Client

/-- The filter of a WHERE clause is empty exactly if there is no such clause. -/
theorem whereFilter_eq_empty_iff {ws : List (List Char)} (every : ∀ w ∈ ws, IsWord w)
    (compiled : whereFilter ((conditionWords? ws).map fun back => String.ofList (unwords back))
      params = .ok filter) : filter = .empty ↔ conditionWords? ws = none := by
  cases found : conditionWords? ws with
  | none =>
    rw [found] at compiled
    cases compiled
    exact ⟨fun _ => rfl, fun _ => rfl⟩
  | some back =>
    obtain ⟨more, isSuffix⟩ := conditionWords?_eq_some found
    obtain ⟨w, rest, rfl⟩ := List.exists_cons_of_ne_nil more
    have everyBack : ∀ v ∈ w :: rest, IsWord v := fun v member => every v (isSuffix.subset member)
    -- only a blank condition compiles to the empty filter, and words are not blank
    have something : IsSolid (unwords (w :: rest)) := by
      by_contra blank
      rw [← trim_eq_nil_iff, trim_unwords everyBack] at blank
      exact unwords_ne_nil (everyBack w List.mem_cons_self) rest blank
    simp only [reduceCtorEq, iff_false]
    rintro rfl
    rw [found, Option.map_some, whereFilter, Condition.compile_eq_empty_iff,
      String.toList_ofList] at compiled
    exact compiled something

theorem updateFilter_eq_empty_iff {plan : UpdatePlan}
    (read : extractUpdate (cleanStatement sql) = .ok plan)
    (compiled : whereFilter plan.predicate params = .ok filter) :
    filter = .empty ↔ ¬ HasCondition ((words sql.toList).drop 4) := by
  have every : ∀ w ∈ words sql.toList, IsWord w := fun _ member => isWord_of_mem_words member
  obtain ⟨u, v, w, rest, same, predicate⟩ := extractUpdate_predicate read
  rw [cleanStatement, String.toList_ofList, words_clean] at same
  rw [predicate] at compiled
  rw [same] at every ⊢
  rw [whereFilter_eq_empty_iff _ compiled, ← isSome_conditionWords?]
  · simp
  · exact fun w member => every w (by simp [member])

theorem deleteFilter_eq_empty_iff {plan : DeletePlan}
    (read : extractDelete (cleanStatement sql) = .ok plan)
    (compiled : whereFilter plan.predicate params = .ok filter) :
    filter = .empty ↔ ∃ u v, words sql.toList = [u, v, plan.table.toList] := by
  have every : ∀ w ∈ words sql.toList, IsWord w := fun _ member => isWord_of_mem_words member
  obtain ⟨u, v, rest, same, predicate, ends⟩ := extractDelete_predicate read
  rw [cleanStatement, String.toList_ofList, words_clean] at same
  rw [predicate] at compiled ends
  rw [same] at every ⊢
  rw [whereFilter_eq_empty_iff _ compiled]
  · constructor
    · intro nothing
      exact ⟨u, v, by rw [ends (by rw [nothing]; rfl)]⟩
    · rintro ⟨_, _, short⟩
      cases short
      rfl
  · exact fun w member => every w (by simp [member])

open Call

variable {settings : Settings} {store : Store σ} {before : List StoreCall}

/-- A write of an UPDATE has the empty filter exactly if no WHERE stands in the right place. -/
def UpdatesConditionally (sql : String) (call : StoreCall) : Prop :=
  ∀ collection filter, call.write? = some (collection, filter) →
    (filter = .empty ↔ ¬ HasCondition ((words sql.toList).drop 4))

/-- A write of a DELETE has the empty filter exactly if its table is the last word. -/
def DeletesConditionally (sql : String) (call : StoreCall) : Prop :=
  ∀ collection filter, call.write? = some (collection, filter) →
    (filter = .empty ↔ ∃ u v, words sql.toList = [u, v, collection.toList])

theorem noted_update :
    Keeps (fun s => NotedSince (UpdatesConditionally sql) before s ∧ s.Faithful)
      ((recorded settings store).update sql params) fun _ => True := by
  have listed : UpdatesConditionally sql .list := fun _ _ written => by cases written
  refine keeps_update
    (((noted_cachedPlan _ _ _ _).and (faithful_cachedPlan Slot.updates_holds _)).mono
      fun _ origin => origin.2)
    (fun table => ((noted_checkTable listed table).and (faithful_checkTable table)).mono
      fun _ allowed => allowed.1) ?_
  -- the cached plan is that of the text, so its filter is decided by the words
  intro plan filter set read _ compiled
  refine ((noted_ask _ _ ?_).and (faithful_ask _)).mono fun _ _ => trivial
  intro collection other written
  cases written
  exact updateFilter_eq_empty_iff read compiled

theorem noted_delete :
    Keeps (fun s => NotedSince (DeletesConditionally sql) before s ∧ s.Faithful)
      ((recorded settings store).delete sql params) fun _ => True := by
  have listed : DeletesConditionally sql .list := fun _ _ written => by cases written
  refine keeps_delete
    (((noted_cachedPlan _ _ _ _).and (faithful_cachedPlan Slot.deletes_holds _)).mono
      fun _ origin => origin.2)
    (fun table => ((noted_checkTable listed table).and (faithful_checkTable table)).mono
      fun _ allowed => allowed.1) ?_
  intro plan filter read _ compiled
  refine ((noted_ask _ _ ?_).and (faithful_ask _)).mono fun _ _ => trivial
  intro collection other written
  cases written
  exact deleteFilter_eq_empty_iff read compiled

end Client

/-- In every session that a client can reach, whatever its settings and its store, an UPDATE is run
with the empty filter exactly if WHERE does not stand between two words after the first word of
the assignments, and a DELETE exactly if its table is the last of three words. -/
theorem unconditional_write_iff (settings : Settings) (store : Store σ)
    (operations : List Operation) (start : Watched σ) (sql : String) (params : Parameters) :
    let client := Client.recorded settings store
    let s := Operation.runAll client operations (Session.start start)
    (∃ made, (client.update sql params s).2.store.calls = made ++ s.store.calls ∧
      ∀ call ∈ made, ∀ collection filter, call.write? = some (collection, filter) →
        (filter = .empty ↔ ¬ HasCondition ((words sql.toList).drop 4))) ∧
    ∃ made, (client.delete sql params s).2.store.calls = made ++ s.store.calls ∧
      ∀ call ∈ made, ∀ collection filter, call.write? = some (collection, filter) →
        (filter = .empty ↔ ∃ u v, words sql.toList = [u, v, collection.toList]) := by
  intro client s
  have faithful : s.Faithful := Operation.runAll_faithful client operations start
  exact ⟨(Client.noted_update s ⟨Watched.noted_self _ s.store, faithful⟩).1.1,
    (Client.noted_delete s ⟨Watched.noted_self _ s.store, faithful⟩).1.1⟩

/-- A WHERE that nothing follows is taken for the end of a value, and all documents are changed. -/
theorem update_ending_in_where :
    words "UPDATE table1 SET a = 1 WHERE".toList =
        ["UPDATE", "table1", "SET", "a", "=", "1", "WHERE"].map String.toList ∧
      ((Client.recorded (.standard "localhost" "test")
          (Memory.store fun _ => ⟨List.replicate 24 0, rfl⟩)).update
          "UPDATE table1 SET a = 1 WHERE" [] (.start (.ofInner .empty))).2.store.calls =
        [.update "table1" .empty [("a", .string "1 WHERE")], .list] := by
  constructor
  · decide
  · rfl

end DocQuery

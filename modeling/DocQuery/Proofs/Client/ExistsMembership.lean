import DocQuery.Proofs.Client.InvisibleCaches
import DocQuery.Proofs.Execute.Stages
import DocQuery.Proofs.Query.ColumnProjection
import DocQuery.Proofs.Query.ExistsFilter
import DocQuery.Proofs.Statement.InnerStatement

/-! # EXISTS is membership

An EXISTS clause asks whether a value of the outer document is among those of the inner table, and
NOT EXISTS asks for the opposite.

* `ExistsClause.Holds` — the meaning of a clause over the documents of a store.
* `Direct.run_existsValues` — the values that the inner statement gives.
* `Client.Builds` — the filter that a client makes of a SELECT.
* `exists_is_membership` — which documents that filter passes.
-/

namespace DocQuery

open DocQuery.Text

/-! ## The inner statement -/

/-- An inner statement of one column of one table, none of them a word of the statement itself. -/
structure ExistsClause.IsPlain (clause : ExistsClause) : Prop where
  table : IsAsciiName clause.table
  field : IsAsciiName clause.innerField
  notKeyword : ∀ word ∈ ["FROM", "WHERE", "DISTINCT"],
    clause.innerField.toList.map Char.toUpper ≠ word.toList
  short : clause.innerStatement.length ≤ Select.maxLength

variable {clause : ExistsClause}

theorem ExistsClause.IsPlain.isReadable (plain : clause.IsPlain) : clause.IsReadable where
  table := plain.table.toIsName
  field := plain.field.toIsName
  notKeyword := fun word member => plain.field.not_spells (plain.notKeyword word member)
  short := plain.short

/-! ## The inner values -/

variable {settings : Settings} {ids : IdSupply}

theorem Client.distinctValues_projected {column : String} (pointless : '.' ∉ column.toList)
    (nonempty : column ≠ "") (docs : List Document) :
    distinctValues column (docs.map (columnProjection column).apply) =
      distinctValues column docs := by
  have same : ((·.getPath? column) ∘ (columnProjection column).apply) = (·.getPath? column) :=
    funext (getPath?_apply_columnProjection pointless nonempty)
  rw [distinctValues, List.filterMap_map, same, distinctValues]

/-- Without a condition all documents are found. -/
theorem Memory.find_projected (projection : Projection) (collection : String) (m : Memory) :
    (store ids).find collection
        { FindQuery.ofFilter .empty with projection := some projection } m =
      (.ok ((m.documents collection).map projection.apply), m) := by
  simp [store, FindQuery.run, FindQuery.ofFilter, Filter.select_empty, window, ofQuery, bind,
    Except.bind, pure, Except.pure]

/-- The inner statement gives the values of the inner field in all documents of the inner table. -/
theorem Direct.run_existsValues (ids : IdSupply) (readable : clause.IsReadable)
    (allowed : settings.isAllowed clause.table = true) (m : Memory) :
    (Direct.existsValues ⟨settings, Memory.store ids⟩ clause).run m =
      (.ok (Client.distinctValues clause.innerField (m.documents clause.table)), m) := by
  obtain ⟨inner, read, table, bare⟩ := readable.read
  have checked : (DirectCall.checkTable settings inner.table).run m = (.ok (), m) := by
    rw [table, DirectCall.checkTable, if_pos allowed]
    rfl
  have everything : inner.whereFilter [] = .ok .empty := by rw [SelectPlan.whereFilter, bare]
  have asked := DirectCall.run_ask ((Memory.store ids).find inner.table
    { FindQuery.ofFilter .empty with
      projection := some (Client.columnProjection clause.innerField) }) m
  rw [Memory.find_projected] at asked
  rw [existsValues, DirectCall.run_bind_ok (DirectCall.run_ofExcept read m),
    DirectCall.run_bind_ok checked, DirectCall.run_bind_ok (DirectCall.run_ofExcept everything m),
    DirectCall.run_bind_ok asked, table, Client.distinctValues_projected readable.field.pointless
      readable.field.ne_empty]
  rfl

/-! ## The filter -/

/-- The values other than null that the documents of the inner table have at the inner field. -/
def ExistsClause.innerValues (clause : ExistsClause) (m : Memory) : List Value :=
  ((m.documents clause.table).filterMap (·.getPath? clause.innerField)).filter (!·.isNull)

/-- A document has the value of some document of the inner table. -/
def ExistsClause.Holds (clause : ExistsClause) (m : Memory) (doc : Document) : Prop :=
  ∃ value ∈ clause.innerValues m, fieldEquals (doc.getPath? clause.outerField) value = true

instance (clause : ExistsClause) (m : Memory) (doc : Document) : Decidable (clause.Holds m doc) :=
  inferInstanceAs (Decidable (∃ value ∈ clause.innerValues m, _))

/-- A SELECT with an EXISTS clause, or with the clause negated. -/
def SelectPlan.withExists (plan : SelectPlan) (clause : ExistsClause) (negated : Bool) :
    SelectPlan :=
  { plan with exists_ := some { clause with negated := negated } }

/-- The client makes a filter of a SELECT: it looks for the values of the EXISTS clause, which
leaves the store as it is, and folds them into the condition. This is the filter of the command
that the SELECT is run with, and the one that its rows are counted and its values read with. -/
structure Client.Builds (client : Client Memory) (s : Session Memory) (plan : SelectPlan)
    (params : Parameters) (filter : Filter) : Prop where
  planned : ∃ values after, planExistsValues client plan s = (.ok values, after) ∧
    after.store = s.store ∧ plan.selectFilter params values = .ok filter ∧
    plan.planSelect params values = plan.planWith params filter
  resolved : (resolvedFilter client plan params s).1 = .ok filter

variable {plan : SelectPlan} {params : Parameters} {filter : Filter}

theorem Client.builds_of_values {client : Client Memory} {s after : Session Memory}
    {values : List Value} (found : planExistsValues client plan s = (.ok values, after))
    (untouched : after.store = s.store) (folded : plan.selectFilter params values = .ok filter) :
    client.Builds s plan params filter where
  planned := ⟨values, after, found, untouched, folded, by rw [SelectPlan.planSelect, folded]; rfl⟩
  resolved := by
    change (Call.andThen (planExistsValues client plan) _ s).1 = _
    rw [Call.andThen, found]
    exact folded

theorem SelectPlan.selectFilter_withExists (compiled : plan.whereFilter params = .ok filter)
    (clause : ExistsClause) (negated : Bool) (values : List Value) :
    (plan.withExists clause negated).selectFilter params values =
      .ok (filter.both (existsFilter { clause with negated := negated } values)) := by
  have same : (plan.withExists clause negated).whereFilter params = .ok filter := compiled
  rw [selectFilter, same]
  rfl

theorem Client.builds_withExists {s : Session Memory} (faithful : s.Faithful)
    (plain : clause.IsPlain) (allowed : settings.isAllowed clause.table = true)
    (compiled : plan.whereFilter params = .ok filter) (negated : Bool) :
    Builds ⟨settings, Memory.store ids⟩ s (plan.withExists clause negated) params
      (filter.both (SelectPlan.existsFilter { clause with negated := negated }
        (distinctValues clause.innerField (s.store.documents clause.table)))) := by
  -- the inner statement does not depend on the negation
  have negatedPlain : ExistsClause.IsPlain { clause with negated := negated } := { plain with }
  have agrees : Call.Agrees
      (planExistsValues ⟨settings, Memory.store ids⟩ (plan.withExists clause negated))
      (Direct.planExistsValues ⟨settings, Memory.store ids⟩ (plan.withExists clause negated)) :=
    agrees_planExistsValues (fun _ => rfl) _
  obtain ⟨same, -⟩ := agrees s faithful
  have direct := Direct.run_existsValues ids negatedPlain.isReadable allowed s.store
  change _ = (Direct.existsValues _ _).run s.store at same
  rw [direct, Prod.mk.injEq] at same
  exact builds_of_values (Prod.ext same.1 rfl) same.2
    (SelectPlan.selectFilter_withExists compiled clause negated _)

variable {m : Memory} {doc : Document}

theorem ExistsClause.any_distinctValues
    (noFloats : ∀ value ∈ clause.innerValues m, value.hasFloat = false) (doc : Document) :
    (Client.distinctValues clause.innerField (m.documents clause.table)).any
        (fieldEquals (doc.getPath? clause.outerField)) = decide (clause.Holds m doc) := by
  change ((clause.innerValues m).foldl Client.addDistinct []).any _ = _
  rw [Client.any_distinct (by simp) noFloats, List.nil_append, Bool.eq_iff_iff,
    List.any_eq_true, decide_eq_true_eq]
  rfl

/-- A document passes the folded filter if it passes the condition and has, or has not, a value of
the inner table. -/
theorem SelectPlan.test_folded (some_ : clause.innerValues m ≠ [])
    (noFloats : ∀ value ∈ clause.innerValues m, value.hasFloat = false) {passes : Bool}
    (tested : filter.test doc = .ok passes) (negated : Bool) :
    (filter.both (existsFilter { clause with negated := negated }
      (Client.distinctValues clause.innerField (m.documents clause.table)))).test doc =
      .ok (passes && (decide (clause.Holds m doc) != negated)) := by
  have kept : Client.distinctValues clause.innerField (m.documents clause.table) ≠ [] := by
    obtain ⟨value, rest, same⟩ := List.exists_cons_of_ne_nil some_
    change (clause.innerValues m).foldl Client.addDistinct [] ≠ []
    rw [same, List.foldl_cons]
    exact Client.foldl_addDistinct_ne_nil rest (Client.addDistinct_ne_nil [] value)
  have membership := test_existsFilter { clause with negated := negated } kept doc
  rw [clause.any_distinctValues noFloats doc] at membership
  exact Filter.test_both tested membership

/-- In every session that a client of a store in memory can reach: if the condition of a SELECT
compiles to a filter, and the inner field of its EXISTS clause has a value in some document and a
double in none, then the client makes filters for EXISTS and NOT EXISTS. On a document that the
condition can be tested on, these ask for the condition and for a document of the inner table with
an equal value, or for none; so of the documents that satisfy the condition each passes exactly one
of the two. -/
theorem exists_is_membership {s : Session Memory}
    (reached : ∃ operations start,
      Operation.runAll ⟨settings, Memory.store ids⟩ operations (Session.start start) = s)
    (plain : clause.IsPlain) (allowed : settings.isAllowed clause.table = true)
    (compiled : plan.whereFilter params = .ok filter) (some_ : clause.innerValues s.store ≠ [])
    (noFloats : ∀ value ∈ clause.innerValues s.store, value.hasFloat = false) :
    ∃ existing missing,
      Client.Builds ⟨settings, Memory.store ids⟩ s (plan.withExists clause false) params existing ∧
      Client.Builds ⟨settings, Memory.store ids⟩ s (plan.withExists clause true) params missing ∧
      ∀ doc passes, filter.test doc = .ok passes →
        ∃ one other, existing.test doc = .ok one ∧ missing.test doc = .ok other ∧
          (one = true ↔ passes = true ∧ clause.Holds s.store doc) ∧
          (other = true ↔ passes = true ∧ ¬ clause.Holds s.store doc) ∧
          (passes = true → one = !other) := by
  obtain ⟨operations, start, rfl⟩ := reached
  have faithful := Operation.runAll_faithful ⟨settings, Memory.store ids⟩ operations start
  refine ⟨_, _, Client.builds_withExists faithful plain allowed compiled false,
    Client.builds_withExists faithful plain allowed compiled true, fun doc passes tested => ?_⟩
  refine ⟨_, _, SelectPlan.test_folded some_ noFloats tested false,
    SelectPlan.test_folded some_ noFloats tested true, ?_, ?_, ?_⟩
  · simp
  · simp
  · rintro rfl
    simp

/-- A document with an integer is found by the same integer of another width, and not missed. -/
theorem exists_is_membership_of_integers :
    ∃ existing missing,
      Client.Builds ⟨.standard "c" "d", Memory.store fun _ => .nil⟩
        (Session.start ⟨[("table2", [⟨[("f", .int32 1)]⟩, ⟨[("f", .null)]⟩])], 0⟩)
        (SelectPlan.withExists ⟨"table1", ["*"], none, none, none, none, false, none, none, none⟩
          ⟨false, "table2", "f", "f", "table1", "g"⟩ false) [] existing ∧
      Client.Builds ⟨.standard "c" "d", Memory.store fun _ => .nil⟩
        (Session.start ⟨[("table2", [⟨[("f", .int32 1)]⟩, ⟨[("f", .null)]⟩])], 0⟩)
        (SelectPlan.withExists ⟨"table1", ["*"], none, none, none, none, false, none, none, none⟩
          ⟨false, "table2", "f", "f", "table1", "g"⟩ true) [] missing ∧
      existing.test ⟨[("g", .int64 1)]⟩ = .ok true ∧
      missing.test ⟨[("g", .int64 1)]⟩ = .ok false := by
  have plain : ExistsClause.IsPlain ⟨false, "table2", "f", "f", "table1", "g"⟩ :=
    ⟨by decide, by decide, by decide, by decide⟩
  have values : ExistsClause.innerValues ⟨false, "table2", "f", "f", "table1", "g"⟩
      ⟨[("table2", [⟨[("f", .int32 1)]⟩, ⟨[("f", .null)]⟩])], 0⟩ = [.int32 1] := by rfl
  have holds : ExistsClause.Holds ⟨false, "table2", "f", "f", "table1", "g"⟩
      ⟨[("table2", [⟨[("f", .int32 1)]⟩, ⟨[("f", .null)]⟩])], 0⟩ ⟨[("g", .int64 1)]⟩ :=
    ⟨.int32 1, by simp [values], by rfl⟩
  have reached : ∃ operations start,
      Operation.runAll ⟨.standard "c" "d", Memory.store fun _ => .nil⟩ operations
        (Session.start start) =
      Session.start ⟨[("table2", [⟨[("f", .int32 1)]⟩, ⟨[("f", .null)]⟩])], 0⟩ :=
    ⟨[], _, rfl⟩
  have compiled : SelectPlan.whereFilter
      ⟨"table1", ["*"], none, none, none, none, false, none, none, none⟩ [] = .ok .empty := rfl
  obtain ⟨existing, missing, built, negated, tested⟩ := exists_is_membership reached plain
    (by decide) compiled (values ▸ by simp) (values ▸ by simp [Value.hasFloat])
  obtain ⟨one, other, existingTested, missingTested, found, -, opposite⟩ :=
    tested ⟨[("g", .int64 1)]⟩ true rfl
  have passes : one = true := found.mpr ⟨rfl, holds⟩
  have fails : other = false := by simpa [passes] using opposite rfl
  exact ⟨existing, missing, built, negated, by rw [existingTested, passes],
    by rw [missingTested, fails]⟩

end DocQuery

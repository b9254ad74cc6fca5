import DocQuery.Proofs.Condition.Wildcards
import DocQuery.Proofs.Statement.ClauseSource
import DocQuery.Proofs.Statement.WhereClause

/-! # Refused shapes of plans

A statement is refused for a pattern between wildcards, and for a conversion in its order. Both are
looked for in the text of the statement, while a plan is made of what is read from it. So a plan can
have what the check looks for: where LIKE is written in a way that the check does not know, and where
an EXISTS clause is cut out from between the words of a shape.

* `QueryPlan.filters`, `QueryPlan.sortKeys` — the filters of a store command, and its order.
* `IsPlanned` — what is planned for a statement of any kind.
* `SelectPlan.shapes_of_planSelect` — where the patterns and the conversions of a plan are written.
* `JoinsShape` — a shape that only the cut of an EXISTS clause puts together.
* `planned_shapes` — the refused shapes that an accepted statement is planned with.
-/

namespace DocQuery

open DocQuery.Text Safety Condition

variable {sql : String} {text : List Char}

/-! ## Plans -/

def Stage.filters : Stage → List Filter
  | .select filter => [filter]
  | _ => []

def Stage.sortKeys : Stage → SortKeys
  | .sort keys => keys
  | _ => []

namespace QueryPlan

/-- The filters of a store command. -/
def filters : QueryPlan → List Filter
  | .find query => [query.filter]
  | .aggregate stages | .scalar stages _ => stages.flatMap Stage.filters

/-- The keys that a store command sorts by. -/
def sortKeys : QueryPlan → SortKeys
  | .find query => query.sort.getD []
  | .aggregate stages | .scalar stages _ => stages.flatMap Stage.sortKeys

end QueryPlan

namespace SelectPlan

variable {plan : SelectPlan} {values : List Value} {query : QueryPlan} {filter : Filter}

/-- The texts that the filters of a SELECT are made of. A condition on groups is left out where no
groups are made. -/
def conditions (plan : SelectPlan) : List String :=
  plan.predicate.toList ++
    if plan.strategy = .groupBy then (plan.groupBy.bind (·.having)).toList else []

theorem patterns_existsFilter (clause : ExistsClause) (values : List Value) :
    (existsFilter clause values).patterns = [] := by
  unfold existsFilter
  split <;> rfl

theorem patterns_selectFilter (planned : plan.selectFilter [] values = .ok filter) :
    filter.patterns = plan.predicate.toList.flatMap patternsIn := by
  unfold selectFilter at planned
  cases compiled : plan.whereFilter [] with
  | error e => simp [compiled, bind, Except.bind] at planned
  | ok condition =>
    have patterns : condition.patterns = plan.predicate.toList.flatMap patternsIn := by
      unfold whereFilter at compiled
      split at compiled
      · rename_i text written
        rw [written, patterns_compile compiled]
        simp
      · rename_i none
        cases compiled
        rw [none]
        rfl
    simp only [compiled, bind, Except.bind] at planned
    split at planned
    · cases planned
      rw [Filter.patterns_both, patterns_existsFilter, List.append_nil, patterns]
    · cases planned
      exact patterns

theorem shapes_windowStages (plan : SelectPlan) : plan.windowStages.flatMap Stage.filters = [] ∧
    plan.windowStages.flatMap Stage.sortKeys = [] := by
  unfold windowStages
  cases plan.offset <;> cases plan.top <;> exact ⟨rfl, rfl⟩

/-- The sort keys of a command are those of the order of the plan, if it has one. -/
def Orders (plan : SelectPlan) (keys : SortKeys) : Prop :=
  keys = [] ∨ ∃ resolve, plan.order resolve = .ok (some keys)

theorem orders_getD {resolve : String → String} {order : Option SortKeys}
    (ordered : plan.order resolve = .ok order) : plan.Orders (order.getD []) := by
  cases order with
  | none => exact .inl rfl
  | some keys => exact .inr ⟨resolve, ordered⟩

theorem shapes_findQuery {find : FindQuery} (planned : plan.findQuery filter = .ok find) :
    (QueryPlan.find find).filters = [filter] ∧ plan.Orders (QueryPlan.find find).sortKeys := by
  unfold findQuery at planned
  cases ordered : plan.order id with
  | error e => simp [ordered, bind, Except.bind] at planned
  | ok order =>
    simp only [ordered, bind, Except.bind] at planned
    cases planned
    exact ⟨rfl, orders_getD ordered⟩

theorem shapes_order (order : Option SortKeys) :
    (order.map Stage.sort).toList.flatMap Stage.filters = [] ∧
      (order.map Stage.sort).toList.flatMap Stage.sortKeys = order.getD [] := by
  cases order <;> simp [Stage.filters, Stage.sortKeys]

/-- The stages of a grouping, with the condition on groups among them. -/
theorem groupPipeline_eq_ok {stages : Pipeline} {params : Parameters}
    (planned : plan.groupPipeline filter params = .ok stages) :
    ∃ group having order, plan.groupBy = some group ∧
      group.having.mapM (compile (.groups group.fields) params) = .ok having ∧
      plan.order (plan.groupedPath group.fields) = .ok order ∧
      stages = [.select filter, .group (.fields group.fields) (plan.groupOutputs group.fields)]
        ++ (having.map Stage.select).toList ++ (order.map Stage.sort).toList
        ++ plan.windowStages := by
  unfold groupPipeline at planned
  cases grouped : plan.groupBy with
  | none => simp [grouped, throw, throwThe, MonadExceptOf.throw] at planned
  | some group =>
    simp only [grouped, bind, Except.bind] at planned
    cases had : group.having with
    | none =>
      simp only [had] at planned
      cases ordered : plan.order (plan.groupedPath group.fields) with
      | error e => simp [ordered] at planned
      | ok order =>
        rw [ordered] at planned
        cases planned
        exact ⟨group, none, order, rfl, by rw [had]; rfl, ordered, rfl⟩
    | some text =>
      simp only [had] at planned
      cases compiled : compile (.groups group.fields) params text with
      | error e => simp [compiled, Except.map] at planned
      | ok condition =>
        cases ordered : plan.order (plan.groupedPath group.fields) with
        | error e => simp [compiled, ordered, Except.map] at planned
        | ok order =>
          simp only [compiled, ordered, Except.map] at planned
          cases planned
          refine ⟨group, some condition, order, rfl, ?_, ordered, rfl⟩
          rw [had, Option.mapM_some, compiled]
          rfl

theorem shapes_groupPipeline {stages : Pipeline}
    (planned : plan.groupPipeline filter [] = .ok stages) :
    (QueryPlan.aggregate stages).filters.flatMap Filter.patterns =
        filter.patterns ++ ((plan.groupBy.bind (·.having)).toList).flatMap patternsIn ∧
      plan.Orders (QueryPlan.aggregate stages).sortKeys := by
  obtain ⟨group, having, order, grouped, compiled, ordered, rfl⟩ := groupPipeline_eq_ok planned
  obtain ⟨noFilters, noKeys⟩ := shapes_windowStages plan
  obtain ⟨alsoNoFilters, keys⟩ := shapes_order order
  have inHaving : (having.map Stage.select).toList.flatMap Stage.sortKeys = [] ∧
      ((having.map Stage.select).toList.flatMap Stage.filters).flatMap Filter.patterns =
        group.having.toList.flatMap patternsIn := by
    cases had : group.having with
    | none =>
      rw [had] at compiled
      cases compiled
      exact ⟨rfl, rfl⟩
    | some text =>
      rw [had, Option.mapM_some] at compiled
      cases condition : compile (.groups group.fields) [] text with
      | error e => simp [condition] at compiled
      | ok f =>
        rw [condition] at compiled
        cases compiled
        simp [Stage.filters, Stage.sortKeys, patterns_compile condition]
  constructor
  · simp [QueryPlan.filters, Stage.filters, noFilters, alsoNoFilters, inHaving, grouped]
  · simpa [QueryPlan.sortKeys, Stage.sortKeys, noKeys, keys, inHaving] using orders_getD ordered

theorem patterns_of_isEmpty (empty : filter.isEmpty = true) : filter.patterns = [] := by
  cases filter <;> first | rfl | cases empty

theorem shapes_distinctPipeline {stages : Pipeline}
    (planned : plan.distinctPipeline filter = .ok stages) :
    (QueryPlan.aggregate stages).filters.flatMap Filter.patterns = filter.patterns ∧
      plan.Orders (QueryPlan.aggregate stages).sortKeys := by
  unfold distinctPipeline at planned
  cases ordered : plan.order id with
  | error e => simp [ordered, bind, Except.bind] at planned
  | ok order =>
    obtain ⟨noFilters, noKeys⟩ := shapes_windowStages plan
    have inOrder := shapes_order order
    simp only [ordered, bind, Except.bind] at planned
    cases planned
    have orders := orders_getD ordered
    -- an empty filter is left out
    cases empty : filter.isEmpty with
    | true =>
      simp [QueryPlan.filters, QueryPlan.sortKeys, Stage.filters, Stage.sortKeys, noFilters, noKeys,
        inOrder, orders, patterns_of_isEmpty empty]
    | false =>
      simp [QueryPlan.filters, QueryPlan.sortKeys, Stage.filters, Stage.sortKeys, noFilters, noKeys,
        inOrder, orders]

theorem shapes_scalarPipeline {stages : Pipeline} {label : String}
    (planned : plan.scalarPipeline filter = .ok (stages, label)) :
    (QueryPlan.scalar stages label).filters = [filter] ∧
      plan.Orders (QueryPlan.scalar stages label).sortKeys := by
  unfold scalarPipeline at planned
  split at planned
  · cases planned
  · cases planned
    exact ⟨rfl, .inl rfl⟩

/-- The patterns of a plan are those of its conditions, and its sort keys those of its order. -/
theorem shapes_of_planSelect (planned : plan.planSelect [] values = .ok query) :
    query.filters.flatMap Filter.patterns = plan.conditions.flatMap patternsIn ∧
      plan.Orders query.sortKeys := by
  unfold planSelect at planned
  cases selected : plan.selectFilter [] values with
  | error e => simp [selected, bind, Except.bind] at planned
  | ok filter =>
    simp only [selected, bind, Except.bind] at planned
    have patterns := patterns_selectFilter selected
    have find (notGrouped : plan.strategy ≠ .groupBy)
        (planned : (plan.findQuery filter).map QueryPlan.find = .ok query) :
        query.filters.flatMap Filter.patterns = plan.conditions.flatMap patternsIn ∧
          plan.Orders query.sortKeys := by
      cases found : plan.findQuery filter with
      | error e => simp [found, Except.map] at planned
      | ok command =>
        rw [found] at planned
        cases planned
        obtain ⟨filters, orders⟩ := shapes_findQuery found
        exact ⟨by simp [filters, conditions, notGrouped, patterns], orders⟩
    have scalar (notGrouped : plan.strategy ≠ .groupBy)
        (planned : ((plan.scalarPipeline filter).map fun labelled =>
          QueryPlan.scalar labelled.1 labelled.2) = .ok query) :
        query.filters.flatMap Filter.patterns = plan.conditions.flatMap patternsIn ∧
          plan.Orders query.sortKeys := by
      cases found : plan.scalarPipeline filter with
      | error e => simp [found, Except.map] at planned
      | ok command =>
        rw [found] at planned
        cases planned
        obtain ⟨filters, orders⟩ := shapes_scalarPipeline found
        exact ⟨by simp [filters, conditions, notGrouped, patterns], orders⟩
    unfold planWith at planned
    cases way : plan.strategy with
    | «exists» =>
      rw [way] at find scalar
      simp only [way] at planned
      split at planned
      · exact scalar (by simp) planned
      · exact find (by simp) planned
    | groupBy =>
      simp only [way] at planned
      cases found : plan.groupPipeline filter [] with
      | error e => simp [found, Except.map] at planned
      | ok stages =>
        rw [found] at planned
        cases planned
        obtain ⟨filters, orders⟩ := shapes_groupPipeline found
        exact ⟨by simp [filters, conditions, way, patterns], orders⟩
    | distinct =>
      simp only [way] at planned
      cases found : plan.distinctPipeline filter with
      | error e => simp [found, Except.map] at planned
      | ok stages =>
        rw [found] at planned
        cases planned
        obtain ⟨filters, orders⟩ := shapes_distinctPipeline found
        exact ⟨by simp [filters, conditions, way, patterns], orders⟩
    | scalarAggregate =>
      simp only [way] at planned
      exact scalar (by simp [way]) planned
    | find =>
      simp only [way] at planned
      exact find (by simp [way]) planned

end SelectPlan

/-! ## Conversions -/

namespace OrderBy

/-- A key with a conversion is written as a call. -/
theorem castCall?_of_readKey {resolve : String → String} {key : SortKey} {s : List Char}
    (read : readKey resolve s = .ok key) (converts : key.cast ≠ none) :
    (castCall? s).isSome = true := by
  unfold readKey at read
  cases cast : castKey? s with
  | none =>
    simp only [cast] at read
    split at read
    · cases read
      exact absurd rfl converts
    · cases read
  | some parts =>
    simp only [castKey?, bind, Option.bind_eq_some_iff] at cast
    obtain ⟨rest, keyword, inner, bracket, -⟩ := cast
    simp [castCall?, keyword, bracket]

theorem exists_castCall? {resolve : String → String} {pieces : List (List Char)} {keys : SortKeys}
    (read : pieces.mapM (readKey resolve) = .ok keys) {key : SortKey} (member : key ∈ keys)
    (converts : key.cast ≠ none) : ∃ piece ∈ pieces, (castCall? piece).isSome = true := by
  induction pieces generalizing keys with
  | nil =>
    cases read
    cases member
  | cons piece pieces ih =>
    rw [List.mapM_cons] at read
    cases first : readKey resolve piece with
    | error e => simp [first, bind, Except.bind] at read
    | ok here =>
      cases others : pieces.mapM (readKey resolve) with
      | error e => simp [first, others, bind, Except.bind] at read
      | ok rest =>
        rw [first, others] at read
        cases read
        rcases List.mem_cons.mp member with rfl | later
        · exact ⟨piece, List.mem_cons_self, castCall?_of_readKey first converts⟩
        · obtain ⟨other, listed, call⟩ := ih others later
          exact ⟨other, List.mem_cons_of_mem piece listed, call⟩

end OrderBy

/-! ## Statements -/

/-- What a statement is planned with when no parameters are given: the texts of its conditions, the
filters that are made of them and the keys of its order. -/
inductive IsPlanned (sql : String) : List String → List Filter → SortKeys → Prop
  | select {plan : SelectPlan} {values : List Value} {query : QueryPlan}
      (extracted : extractSelect sql = .ok plan) (planned : plan.planSelect [] values = .ok query) :
      IsPlanned sql plan.conditions query.filters query.sortKeys
  | update {plan : UpdatePlan} {filter : Filter} (extracted : extractUpdate sql = .ok plan)
      (planned : Client.whereFilter plan.predicate [] = .ok filter) :
      IsPlanned sql plan.predicate.toList [filter] []
  | delete {plan : DeletePlan} {filter : Filter} (extracted : extractDelete sql = .ok plan)
      (planned : Client.whereFilter plan.predicate [] = .ok filter) :
      IsPlanned sql plan.predicate.toList [filter] []

theorem IsPlanned.patterns {conditions : List String} {filters : List Filter} {keys : SortKeys}
    (planned : IsPlanned sql conditions filters keys) :
    filters.flatMap Filter.patterns = conditions.flatMap patternsIn := by
  have written {predicate : Option String} {filter : Filter}
      (planned : Client.whereFilter predicate [] = .ok filter) :
      [filter].flatMap Filter.patterns = predicate.toList.flatMap patternsIn := by
    cases predicate with
    | none =>
      cases planned
      rfl
    | some text => simp [patterns_compile planned]
  cases planned with
  | select extracted planned => exact (SelectPlan.shapes_of_planSelect planned).1
  | update extracted planned => exact written planned
  | delete extracted planned => exact written planned

/-- The text that the clauses of a statement are read from has a refused shape, and an EXISTS clause
was cut out of it. -/
def JoinsShape (sql : String) : Prop :=
  ∃ clause text, Select.clausesOf sql = .ok (some clause, text) ∧
    (occurs innerPattern? text = true ∨ occurs castCall? text = true ∧ occurs orderBy? text = true)

/-- What the check does not find in a statement is not in what its clauses are read from, unless a
cut brought it there. -/
theorem noInnerPattern_clausesOf (accepted : Accepted true sql.toList) (apart : ¬ JoinsShape sql)
    {clause : Option ExistsClause} (source : Select.clausesOf sql = .ok (clause, text)) :
    occurs innerPattern? text = false := by
  by_contra found
  rw [Bool.not_eq_false] at found
  cases clause with
  | some clause => exact apart ⟨clause, text, source, .inl found⟩
  | none =>
    have inStatement := Select.occurs_of_clausesOf isPhrase_innerPattern? (by decide) source found
    rw [accepted.noInnerPattern] at inStatement
    cases inStatement

theorem noCastSort_clausesOf (accepted : Accepted true sql.toList) (apart : ¬ JoinsShape sql)
    {clause : Option ExistsClause} (source : Select.clausesOf sql = .ok (clause, text)) :
    ¬ (occurs castCall? text = true ∧ occurs atOrder? text = true) := by
  rintro ⟨call, order⟩
  cases clause with
  | some clause => exact apart ⟨clause, text, source, .inr ⟨call, occurs_orderBy? order⟩⟩
  | none =>
    have callInStatement := Select.occurs_of_clausesOf isPhrase_castCall? (by decide) source call
    have orderInStatement := Select.occurs_of_clausesOf isPhrase_atOrder? (by decide) source order
    have checked := accepted.noCastSort
    simp [callInStatement, occurs_orderBy? orderInStatement] at checked

/-- The texts of the conditions of a statement stand in a text where the check finds nothing. -/
theorem IsPlanned.conditions_isInfix {conditions : List String} {filters : List Filter}
    {keys : SortKeys} (planned : IsPlanned sql conditions filters keys)
    (accepted : Accepted true sql.toList) (apart : ¬ JoinsShape sql) {condition : String}
    (member : condition ∈ conditions) :
    ∃ s, condition.toList <:+: s ∧ occurs innerPattern? s = false := by
  have inWords {ws rest : List (List Char)} (front : List (List Char))
      (same : words sql.toList = front ++ rest) (isSuffix : ws <:+ rest) (nonempty : ws ≠ []) :
      unwords ws <:+: clean sql.toList := by
    obtain ⟨before, rfl⟩ := isSuffix
    rw [clean, same, ← List.append_assoc]
    rcases List.eq_nil_or_concat (front ++ before) with none | ⟨init, last, more⟩
    · rw [none]
      exact List.infix_rfl
    · rw [unwords_append (by simp [more]) nonempty]
      exact ⟨unwords (front ++ before) ++ [' '], [], by simp⟩
  have noneClean : occurs innerPattern? (clean sql.toList) = false := by
    rw [occurs_innerPattern?_clean]
    exact accepted.noInnerPattern
  cases planned with
  | select extracted planned =>
    obtain ⟨text, source, predicate, -, grouped⟩ := Select.clauses_of_extractSelect extracted
    refine ⟨text, ?_, noInnerPattern_clausesOf accepted apart source⟩
    rcases List.mem_append.mp member with inWhere | inHaving
    · rw [Option.mem_toList, predicate] at inWhere
      exact (Select.isPart_of_clauseText? (fun _ _ => Select.isSuffix_of_keyword?) inWhere).isInfix
    · split at inHaving
      · rw [Option.mem_toList, grouped, Option.bind_map] at inHaving
        obtain ⟨_, -, having⟩ := Option.bind_eq_some_iff.mp inHaving
        exact (Select.isPart_of_clauseText? (fun _ _ => Select.isSuffix_of_keyword?) having).isInfix
      · cases inHaving
  | update extracted planned =>
    obtain ⟨u, v, w, rest, same, predicate⟩ := extractUpdate_predicate extracted
    rw [Option.mem_toList, predicate] at member
    obtain ⟨ws, found, rfl⟩ := Option.map_eq_some_iff.mp member
    obtain ⟨nonempty, isSuffix⟩ := conditionWords?_eq_some found
    rw [String.toList_ofList]
    exact ⟨_, inWords [u, _, v, w] same isSuffix nonempty, noneClean⟩
  | delete extracted planned =>
    obtain ⟨u, v, rest, same, predicate, -⟩ := extractDelete_predicate extracted
    rw [Option.mem_toList, predicate] at member
    obtain ⟨ws, found, rfl⟩ := Option.map_eq_some_iff.mp member
    obtain ⟨nonempty, isSuffix⟩ := conditionWords?_eq_some found
    rw [String.toList_ofList]
    exact ⟨_, inWords [u, v, _] same isSuffix nonempty, noneClean⟩

/-- An accepted statement is planned without conversions in its order. -/
theorem IsPlanned.cast_eq_none {conditions : List String} {filters : List Filter} {keys : SortKeys}
    (planned : IsPlanned sql conditions filters keys) (accepted : Accepted true sql.toList)
    (apart : ¬ JoinsShape sql) {key : SortKey} (member : key ∈ keys) : key.cast = none := by
  cases planned with
  | update | delete => cases member
  | @select plan values query extracted planned =>
    obtain ⟨text, source, -, orderBy, -⟩ := Select.clauses_of_extractSelect extracted
    by_contra converts
    obtain ⟨-, none | ⟨resolve, ordered⟩⟩ := SelectPlan.shapes_of_planSelect planned
    · rw [none] at member
      cases member
    unfold SelectPlan.order at ordered
    split at ordered
    · rename_i clause written
      rw [orderBy] at written
      have part := Select.isPart_of_clauseText? (fun _ _ => Select.isSuffix_of_keywords?) written
      cases read : readOrder resolve clause with
      | error e => simp [read, Except.map] at ordered
      | ok found =>
        rw [read] at ordered
        cases ordered
        obtain ⟨piece, listed, call⟩ := OrderBy.exists_castCall? read member converts
        have item := part.item (List.mem_filter.mp listed).1
        obtain ⟨whole, here, -⟩ := Option.bind_eq_some_iff.mp written
        exact noCastSort_clausesOf accepted apart source
          ⟨occurs_of_isPart isPhrase_castCall?.readsOn item call, Select.occurs_atOrder? here⟩
    · cases ordered

/-- What an accepted statement is planned with has none of the shapes that are refused, except for
patterns in a spelling that the check overlooks: in double quotes, or in single quotes with another
single quote inside. This is so for statements of all kinds, unless the words of a shape come
together only when an EXISTS clause is cut out between them. -/
theorem planned_shapes {conditions : List String} {filters : List Filter} {keys : SortKeys}
    (accepted : checkStatement true sql = .ok ())
    (planned : IsPlanned sql conditions filters keys) (apart : ¬ JoinsShape sql) :
    ((∃ filter ∈ filters, filter.HasInnerPattern) ↔
      ∃ condition ∈ conditions, ∃ piece ∈ pieceTexts condition.toList, IsOverlooked piece) ∧
    ∀ key ∈ keys, key.cast = none := by
  rw [checkStatement_eq_ok_iff] at accepted
  have patterns (source : String) : (∃ filter ∈ filters, source ∈ filter.patterns) ↔
      ∃ condition ∈ conditions, source ∈ patternsIn condition := by
    rw [← List.mem_flatMap, ← List.mem_flatMap, planned.patterns]
  refine ⟨⟨?_, ?_⟩, fun key => planned.cast_eq_none accepted apart⟩
  · rintro ⟨filter, listed, source, member, inner⟩
    obtain ⟨condition, written, member⟩ := (patterns source).mp ⟨filter, listed, member⟩
    obtain ⟨s, inside, nothing⟩ := planned.conditions_isInfix accepted apart written
    exact ⟨condition, written, overlooked_of_mem_patternsIn nothing inside member inner⟩
  · rintro ⟨condition, written, piece, listed, overlooked⟩
    obtain ⟨source, member, inner⟩ := mem_patternsIn_of_overlooked listed overlooked
    obtain ⟨filter, planned, member⟩ := (patterns source).mpr ⟨condition, written, member⟩
    exact ⟨filter, planned, source, member, inner⟩

/-- A pattern in double quotes is the one refused shape of this plan. -/
theorem planned_shapes_double_quotes :
    checkStatement true "SELECT n FROM t WHERE n LIKE \"%a%\" ORDER BY n" = .ok () ∧
      IsPlanned "SELECT n FROM t WHERE n LIKE \"%a%\" ORDER BY n" ["n LIKE \"%a%\""]
        [.pattern "n" "%a%" none] [⟨"n", none, false⟩] ∧
      ¬ JoinsShape "SELECT n FROM t WHERE n LIKE \"%a%\" ORDER BY n" ∧
      ((∃ filter ∈ [Filter.pattern "n" "%a%" none], filter.HasInnerPattern) ↔
        ∃ condition ∈ ["n LIKE \"%a%\""], ∃ piece ∈ pieceTexts condition.toList,
          IsOverlooked piece) ∧
      ∀ key ∈ [(⟨"n", none, false⟩ : SortKey)], key.cast = none := by
  -- letters stand for the text, since the kernel takes long to decode a long text
  have letters : "SELECT n FROM t WHERE n LIKE \"%a%\" ORDER BY n".toList = _ := String.toList_ofList
  have accepted : checkStatement true "SELECT n FROM t WHERE n LIKE \"%a%\" ORDER BY n" = .ok () := by
    rw [checkStatement, letters]
    rfl
  have extracted : extractSelect "SELECT n FROM t WHERE n LIKE \"%a%\" ORDER BY n" =
      .ok ⟨"t", ["n"], some "n LIKE \"%a%\"", some "n", none, none, false, none, none, none⟩ := by
    rw [extractSelect, letters]
    rfl
  have planned : (⟨"t", ["n"], some "n LIKE \"%a%\"", some "n", none, none, false, none, none,
      none⟩ : SelectPlan).planSelect [] [] = .ok (.find ⟨.pattern "n" "%a%" none,
        some ⟨[("n", true)]⟩, some [⟨"n", none, false⟩], none, none⟩) := by
    with_unfolding_all rfl
  have apart : ¬ JoinsShape "SELECT n FROM t WHERE n LIKE \"%a%\" ORDER BY n" := by
    rintro ⟨clause, text, source, -⟩
    have uncut : Select.clausesOf "SELECT n FROM t WHERE n LIKE \"%a%\" ORDER BY n" =
        .ok (none, "SELECT n FROM t WHERE n LIKE \"%a%\" ORDER BY n".toList) := by
      rw [Select.clausesOf, letters]
      rfl
    rw [uncut] at source
    cases source
  have isPlanned := IsPlanned.select extracted planned
  exact ⟨accepted, isPlanned, apart, planned_shapes accepted isPlanned apart⟩

/-- The check lets through patterns between wildcards in double quotes, or with a single quote
inside, and conversions in an order whose words an EXISTS clause keeps apart. -/
theorem refused_shapes_can_be_planned :
    (checkStatement true "SELECT * FROM t WHERE n LIKE \"%ab%\"" = .ok () ∧
      ∃ conditions filters keys, IsPlanned "SELECT * FROM t WHERE n LIKE \"%ab%\"" conditions
        filters keys ∧ ∃ filter ∈ filters, filter.HasInnerPattern) ∧
    (checkStatement true "DELETE FROM t WHERE n LIKE '%a'b'c%'" = .ok () ∧
      ∃ conditions filters keys, IsPlanned "DELETE FROM t WHERE n LIKE '%a'b'c%'" conditions
        filters keys ∧ ∃ filter ∈ filters, filter.HasInnerPattern) ∧
    (checkStatement true
        "SELECT * FROM t ORDER EXISTS (SELECT a FROM u WHERE b = t.c) BY CAST(x AS INT)" = .ok () ∧
      ∃ conditions filters keys, IsPlanned
        "SELECT * FROM t ORDER EXISTS (SELECT a FROM u WHERE b = t.c) BY CAST(x AS INT)" conditions
        filters keys ∧ ∃ key ∈ keys, key.cast ≠ none) := by
  refine ⟨?_, ?_, ?_⟩
  · have letters : "SELECT * FROM t WHERE n LIKE \"%ab%\"".toList = _ := String.toList_ofList
    refine ⟨by rw [checkStatement, letters]; rfl, ?_⟩
    have extracted : extractSelect "SELECT * FROM t WHERE n LIKE \"%ab%\"" = .ok ⟨"t", ["*"],
        some "n LIKE \"%ab%\"", none, none, none, false, none, none, none⟩ := by
      rw [extractSelect, letters]
      rfl
    have planned : (⟨"t", ["*"], some "n LIKE \"%ab%\"", none, none, none, false, none, none,
        none⟩ : SelectPlan).planSelect [] [] =
          .ok (.find (.ofFilter (.pattern "n" "%ab%" none))) := by
      with_unfolding_all rfl
    exact ⟨_, _, _, .select extracted planned, _, List.mem_singleton_self _, "%ab%",
      List.mem_singleton_self _, by decide⟩
  · have letters : "DELETE FROM t WHERE n LIKE '%a'b'c%'".toList = _ := String.toList_ofList
    refine ⟨by rw [checkStatement, letters]; rfl, ?_⟩
    have extracted : extractDelete "DELETE FROM t WHERE n LIKE '%a'b'c%'" =
        .ok ⟨"t", some "n LIKE '%a'b'c%'"⟩ := by
      rw [extractDelete, letters]
      rfl
    have planned : Client.whereFilter (some "n LIKE '%a'b'c%'") [] =
        .ok (.pattern "n" "%a'b'c%" none) := by
      with_unfolding_all rfl
    exact ⟨_, _, _, .delete extracted planned, _, List.mem_singleton_self _, "%a'b'c%",
      List.mem_singleton_self _, by decide⟩
  · have letters : "SELECT * FROM t ORDER EXISTS (SELECT a FROM u WHERE b = t.c) BY CAST(x AS INT)".toList = _ := String.toList_ofList
    refine ⟨by rw [checkStatement, letters]; rfl, ?_⟩
    have extracted : extractSelect
        "SELECT * FROM t ORDER EXISTS (SELECT a FROM u WHERE b = t.c) BY CAST(x AS INT)" =
          .ok ⟨"t", ["*"], none, some "CAST(x AS INT)", none, none, false, none, none,
            some ⟨false, "u", "a", "b", "t", "c"⟩⟩ := by
      rw [extractSelect, letters]
      rfl
    have planned : (⟨"t", ["*"], none, some "CAST(x AS INT)", none, none, false, none, none,
        some ⟨false, "u", "a", "b", "t", "c"⟩⟩ : SelectPlan).planSelect [] [] =
          .ok (.find ⟨.compare .eq "_id" (.objectId .nil), none, some [⟨"x", some .int, false⟩],
            none, none⟩) := by
      with_unfolding_all rfl
    exact ⟨_, _, _, .select extracted planned, _, List.mem_singleton_self _, by decide⟩

end DocQuery

import DocQuery.Proofs.Statement.WrittenSelect

/-! # A SELECT under joined conditions

A SELECT from a table with an alias, under conditions that are joined by AND, with clauses in any
number and order behind them.

* `FieldsText`, `LaterClause`, `joined` — the parts of the statement.
* `AliasedSelect`, `AliasedSelect.text` — the statement, with the conditions that it is given.
* `AliasedSelect.extractSelect_text` — its plan, whatever EXISTS clause is cut out of it.
* `AliasedSelect.predicate_plan` — the predicate holds all conditions.
-/

namespace DocQuery.Select

open DocQuery.Text

variable {word : String} {s : List Char}

/-! ## Parts of the statement -/

/-- A name that begins no clause. -/
structure SourceName where
  name : String
  isName : IsName name
  notStart : ∀ word ∈ clauseStarts, ¬ Spells word.toList name.toList

/-- A text that is read as a field list: it begins with no modifier, and all its items are read. -/
structure FieldsText extends ClauseText where
  noModifier : ∀ s, modifier? (text ++ ' ' :: ("FROM".toList ++ s)) = none
  notDistinct : wholeKeyword? "DISTINCT" text = none
  output : List String
  call : Option AggregateCall
  read : ∀ sql, readItems sql none (splitList text) = .ok (output, call)

/-- A field list of the grammar is read. -/
def FieldsText.ofItems (fields : CommaList FieldItem)
    (oneCall : (fields.items.filterMap FieldItem.call?).length ≤ 1) : FieldsText where
  text := fields.text FieldItem.text
  nonempty := (isTidy_fieldList fields).ne_nil
  cleaned := (isTidy_fieldList fields).cleaned
  lacks word isStart := by
    have notAs : "AS" ≠ word := by
      rintro rfl
      exact absurd isStart (by decide)
    exact lacks_fieldList fields (mem_clauseWords isStart) notAs
  noModifier _ := modifier?_fieldList fields _
  notDistinct := wholeKeyword?_fieldList fields (by decide) (by decide)
  output := fields.items.map FieldItem.output
  call := fields.items.findSome? FieldItem.call?
  read := readItems_fieldList fields oneCall

/-! ## Clauses behind the condition -/

inductive LaterKind
  | groupBy
  | having
  | orderBy

def LaterKind.opening : LaterKind → List Char
  | .groupBy => "GROUP BY".toList
  | .having => "HAVING".toList
  | .orderBy => "ORDER BY".toList

/-- A clause behind the condition. -/
structure LaterClause where
  kind : LaterKind
  body : ClauseText

namespace LaterClause

variable (clause : LaterClause)

def text : List Char := clause.kind.opening ++ ' ' :: clause.body.text

theorem isTidy : IsTidy clause.text := by
  have opening : IsTidy clause.kind.opening := by
    cases clause.kind <;> exact .of_clean (by decide) (by decide)
  exact opening.append_space clause.body.isTidy

theorem lacks (isStart : word ∈ clauseStarts) (other : word ∉ ["GROUP", "HAVING", "ORDER"]) :
    Lacks word clause.text := by
  rw [text, lacks_append_cons (isKeyword_of_mem_clauseWords word (mem_clauseWords isStart)) rfl]
  refine ⟨?_, clause.body.lacks word isStart⟩
  revert word
  cases clause.kind <;> decide

/-- A condition ends in front of the clause. -/
theorem conditionEnds?_text (s : List Char) :
    conditionEnds? (' ' :: (clause.text ++ s)) = some () := by
  obtain ⟨kind, body⟩ := clause
  cases kind <;> rfl

/-- The clause is one that a WHERE can be left in front of. -/
theorem clauseAfterWhere?_text (s : List Char) :
    (clauseAfterWhere? (clause.text ++ s)).isSome = true := by
  obtain ⟨kind, body⟩ := clause
  cases kind <;> rfl

/-- The clause begins with no connector. -/
theorem dropFirstConnector_text (s : List Char) :
    dropFirstConnector (' ' :: (clause.text ++ s)) = ' ' :: (clause.text ++ s) := by
  obtain ⟨kind, body⟩ := clause
  cases kind <;> rfl

end LaterClause

/-- Clauses in any order and number, each behind a space. -/
def laterText (later : List LaterClause) : List Char :=
  later.flatMap fun clause => ' ' :: clause.text

theorem laterText_cons (clause : LaterClause) (later : List LaterClause) :
    laterText (clause :: later) = ' ' :: (clause.text ++ laterText later) := by
  simp [laterText]

theorem lacks_append_laterText (isStart : word ∈ clauseStarts)
    (other : word ∉ ["GROUP", "HAVING", "ORDER"]) (later : List LaterClause) :
    Lacks word (s ++ laterText later) ↔ Lacks word s := by
  have isKeyword := isKeyword_of_mem_clauseWords word (mem_clauseWords isStart)
  induction later generalizing s with
  | nil => simp [laterText]
  | cons clause later ih =>
    rw [laterText_cons, lacks_append_cons isKeyword rfl]
    exact and_iff_left (ih.mpr (clause.lacks isStart other))

theorem isTidy_append_laterText (tidy : IsTidy s) (later : List LaterClause) :
    IsTidy (s ++ laterText later) := by
  induction later generalizing s with
  | nil => rwa [laterText, List.flatMap_nil, List.append_nil]
  | cons clause later ih =>
    rw [laterText_cons]
    exact tidy.append_space (ih clause.isTidy)

theorem conditionEnds?_laterText (later : List LaterClause) :
    conditionEnds? (laterText later) = some () := by
  cases later with
  | nil => rfl
  | cons clause later =>
    rw [laterText_cons]
    exact clause.conditionEnds?_text _

theorem first_laterText (later : List LaterClause) :
    (laterText later).head?.all isBlank = true := by
  cases later <;> rfl

/-! ## Conditions -/

/-- The conditions with AND between them. -/
def joined (conditions : List (List Char)) : List Char := " AND ".toList.intercalate conditions

/-- Conditions with AND in front of each. -/
def andEach (conditions : List (List Char)) : List Char :=
  conditions.flatMap fun condition => " AND ".toList ++ condition

theorem joined_cons (condition : List Char) (conditions : List (List Char)) :
    joined (condition :: conditions) = condition ++ andEach conditions := by
  induction conditions generalizing condition with
  | nil => simp [joined, andEach]
  | cons next conditions ih =>
    have more : joined (condition :: next :: conditions) =
        condition ++ (" AND ".toList ++ joined (next :: conditions)) := by
      simp [joined, List.intercalate]
    rw [more, ih]
    simp [andEach]

theorem ofList_joined (conditions : List (List Char)) :
    String.ofList (joined conditions) = join " AND " (conditions.map String.ofList) := by
  rw [← String.toList_inj, String.toList_ofList, join, String.toList_intercalate, List.map_map,
    joined]
  simp [Function.comp_def]

theorem andEach_cons (condition : List Char) (conditions : List (List Char)) :
    andEach (condition :: conditions) =
      ' ' :: ("AND".toList ++ ' ' :: (condition ++ andEach conditions)) := by
  simp [andEach]

theorem joined_append {front : List (List Char)} (some_ : front ≠ []) (back : List (List Char)) :
    joined (front ++ back) = joined front ++ andEach back := by
  obtain ⟨condition, front, rfl⟩ := List.exists_cons_of_ne_nil some_
  rw [List.cons_append, joined_cons, joined_cons, List.append_assoc, andEach, List.flatMap_append]
  rfl

theorem isTidy_append_andEach (tidy : IsTidy s) {conditions : List (List Char)}
    (every : ∀ condition ∈ conditions, IsTidy condition) : IsTidy (s ++ andEach conditions) := by
  induction conditions generalizing s with
  | nil => rwa [andEach, List.flatMap_nil, List.append_nil]
  | cons condition conditions ih =>
    obtain ⟨here, others⟩ := List.forall_mem_cons.mp every
    have isAnd : IsName "AND" := by decide
    rw [andEach_cons]
    exact tidy.append_space (isAnd.isTidy.append_space (ih here others))

theorem isTidy_joined {conditions : List (List Char)} (some_ : conditions ≠ [])
    (every : ∀ condition ∈ conditions, IsTidy condition) : IsTidy (joined conditions) := by
  obtain ⟨condition, conditions, rfl⟩ := List.exists_cons_of_ne_nil some_
  obtain ⟨here, others⟩ := List.forall_mem_cons.mp every
  rw [joined_cons]
  exact isTidy_append_andEach here others

theorem lacks_joined (isStart : word ∈ clauseStarts) {conditions : List (List Char)}
    (every : ∀ condition ∈ conditions, Lacks word condition) : Lacks word (joined conditions) := by
  have isKeyword := isKeyword_of_mem_clauseWords word (mem_clauseWords isStart)
  have lacksAnd : ∀ word ∈ clauseStarts, Lacks word "AND".toList := by decide
  induction conditions with
  | nil => exact lacks_nil isKeyword
  | cons condition conditions ih =>
    obtain ⟨here, others⟩ := List.forall_mem_cons.mp every
    cases conditions with
    | nil => rwa [joined_cons, andEach, List.flatMap_nil, List.append_nil]
    | cons next conditions =>
      rw [joined_cons, andEach_cons, ← joined_cons, lacks_append_cons isKeyword rfl,
        lacks_append_cons isKeyword rfl]
      exact ⟨here, lacksAnd word isStart, ih others⟩

/-- The conditions behind WHERE, if there are any. -/
def whereClause : List (List Char) → List Char
  | [] => []
  | conditions => ' ' :: ("WHERE".toList ++ ' ' :: joined conditions)

theorem whereClause_eq {conditions : List (List Char)} (some_ : conditions ≠ []) :
    whereClause conditions = ' ' :: ("WHERE".toList ++ ' ' :: joined conditions) := by
  obtain ⟨condition, conditions, rfl⟩ := List.exists_cons_of_ne_nil some_
  rfl

/-! ## Statements -/

/-- A SELECT from a table with an alias, apart from its conditions. -/
structure AliasedSelect where
  modifiers : List HeadModifier
  once : (modifiers.map HeadModifier.kind).Nodup
  fields : FieldsText
  table : SourceName
  alias_ : SourceName
  later : List LaterClause

namespace AliasedSelect

variable (statement : AliasedSelect)

/-- What is written behind the modifiers. -/
def body (conditions : List (List Char)) : List Char :=
  statement.fields.text ++ ' ' :: ("FROM".toList ++ ' ' :: (statement.table.name.toList ++ ' ' ::
    (statement.alias_.name.toList ++ (whereClause conditions ++ laterText statement.later))))

/-- The statement under some conditions. -/
def text (conditions : List (List Char)) : List Char :=
  "SELECT".toList ++ ' ' :: (headText statement.modifiers ++ statement.body conditions)

/-- The statement without its modifiers. -/
def bare (conditions : List (List Char)) : List Char :=
  "SELECT".toList ++ ' ' :: statement.body conditions

/-- The statement up to its alias, without modifiers. -/
def head : List Char :=
  "SELECT".toList ++ ' ' :: (statement.fields.text ++ ' ' :: ("FROM".toList ++ ' ' ::
    (statement.table.name.toList ++ ' ' :: statement.alias_.name.toList)))

-- stated by hand: the equations that Lean makes of the definitions compute the letters of SELECT
theorem head_eq : statement.head = "SELECT".toList ++ ' ' :: (statement.fields.text ++ ' ' ::
    ("FROM".toList ++ ' ' :: (statement.table.name.toList ++ ' ' ::
      statement.alias_.name.toList))) := rfl

theorem body_eq (conditions : List (List Char)) : statement.body conditions =
    statement.fields.text ++ ' ' :: ("FROM".toList ++ ' ' :: (statement.table.name.toList ++ ' ' ::
      (statement.alias_.name.toList ++
        (whereClause conditions ++ laterText statement.later)))) := rfl

theorem text_eq (conditions : List (List Char)) : statement.text conditions =
    "SELECT".toList ++ ' ' :: (headText statement.modifiers ++ statement.body conditions) := rfl

theorem bare_eq (conditions : List (List Char)) : statement.bare conditions =
    statement.head ++ (whereClause conditions ++ laterText statement.later) := by
  have parts : statement.bare conditions = "SELECT".toList ++ ' ' :: statement.body conditions := rfl
  rw [parts, body_eq, head_eq]
  simp only [List.append_assoc, List.cons_append]

theorem isTidy_head : IsTidy statement.head := by
  have isSelect : IsName "SELECT" := by decide
  have isFrom : IsName "FROM" := by decide
  rw [head_eq]
  exact isSelect.isTidy.append_space (statement.fields.isTidy.append_space
    (isFrom.isTidy.append_space
      (statement.table.isName.isTidy.append_space statement.alias_.isName.isTidy)))

theorem lacks_head (isStart : word ∈ clauseStarts) (notSelect : "SELECT" ≠ word)
    (notFrom : "FROM" ≠ word) : Lacks word statement.head := by
  have isKeyword := isKeyword_of_mem_clauseWords word (mem_clauseWords isStart)
  have source (name : SourceName) : Lacks word name.name.toList :=
    lacks_word name.isName.members (name.notStart word isStart)
  rw [head_eq, lacks_append_cons isKeyword rfl, lacks_append_cons isKeyword rfl,
    lacks_append_cons isKeyword rfl, lacks_append_cons isKeyword rfl]
  exact ⟨lacks_select (mem_clauseWords isStart) notSelect, statement.fields.lacks word isStart,
    Keyword.lacks ⟨"FROM".toList, by decide⟩ (by decide) isKeyword notFrom, source _, source _⟩

theorem lacks_where_head : Lacks "WHERE" statement.head :=
  statement.lacks_head (by decide) (by decide) (by decide)

/-! ## The plan -/

variable {sql : String} {conditions : List (List Char)}

theorem isTidy_body (tidy : ∀ condition ∈ conditions, IsTidy condition) :
    IsTidy (statement.body conditions) := by
  have isFrom : IsName "FROM" := by decide
  have isWhere : IsName "WHERE" := by decide
  have source : IsTidy (statement.alias_.name.toList ++ whereClause conditions) := by
    by_cases some_ : conditions = []
    · subst some_
      simpa [whereClause] using statement.alias_.isName.isTidy
    · rw [whereClause_eq some_]
      exact statement.alias_.isName.isTidy.append_space
        (isWhere.isTidy.append_space (isTidy_joined some_ tidy))
  have behind := isTidy_append_laterText source statement.later
  rw [List.append_assoc] at behind
  exact statement.fields.isTidy.append_space
    (isFrom.isTidy.append_space (statement.table.isName.isTidy.append_space behind))

/-- What the statement says under some conditions. The later clauses are read of its text. -/
def plan (conditions : List (List Char)) : SelectPlan where
  table := statement.table.name
  fields := statement.fields.output
  predicate := (whereText? (statement.bare conditions)).bind nonBlank?
  orderBy := (orderByText? (statement.bare conditions)).bind nonBlank?
  top := statement.modifiers.findSome? HeadModifier.top?
  skip := statement.modifiers.findSome? HeadModifier.skip?
  distinct := statement.modifiers.any fun modifier => modifier.kind == .distinct
  aggregate := statement.fields.call
  groupBy := (groupByText? (statement.bare conditions)).map fun keys =>
    ⟨groupKeys keys, (havingText? (statement.bare conditions)).bind nonBlank?⟩
  exists_ := none

/-- The plan is that of what is left when the EXISTS clause is taken out. -/
theorem extractSelect_text (tidy : ∀ condition ∈ conditions, IsTidy condition)
    (written : clean sql.toList = statement.text conditions)
    (short : (statement.text conditions).length ≤ maxLength) {clause : Option ExistsClause}
    {left : List (List Char)}
    (cut : takeExists (statement.bare conditions) = (clause, statement.bare left)) :
    extractSelect sql = .ok { statement.plan left with exists_ := clause } := by
  have whole := statement.isTidy_body tidy
  have notDistinct : wholeKeyword? "DISTINCT" (statement.body conditions) = none := by
    rw [body, wholeKeyword?_append (by decide) rfl, statement.fields.notDistinct, Option.map_none]
  have window : takeWindow sql (statement.text conditions) = _ :=
    takeWindow_headText ⟨"SELECT".toList, by decide⟩ statement.once whole
      (statement.fields.noModifier _)
  have withoutDistinct : takeDistinct _ = (_, statement.bare conditions) :=
    takeDistinct_headText statement.once whole notDistinct
  have lacksFrom : Lacks "FROM" statement.fields.text := statement.fields.lacks _ (by decide)
  have fields : fieldsText? (statement.bare left) = some statement.fields.text :=
    fieldsText?_here statement.fields.isTidy lacksFrom ⟨"FROM".toList, by decide⟩ _
  have table : tableName? (statement.bare left) = some statement.table.name.toList :=
    tableName?_here lacksFrom ⟨"FROM".toList, by decide⟩
      ⟨statement.table.isName.nonempty, statement.table.isName.members, rfl⟩
  have stages := extractSelect_of_stages
    (by rw [written, List.take_of_length_le short]; exact window) withoutDistinct cut fields table
    (statement.fields.read sql)
  rw [String.ofList_toList] at stages
  exact stages

theorem lacks_bare (lacks : ∀ condition ∈ conditions, Lacks "EXISTS" condition) :
    Lacks "EXISTS" (statement.bare conditions) := by
  have lacksHead : Lacks "EXISTS" statement.head :=
    statement.lacks_head (by decide) (by decide) (by decide)
  rw [bare_eq, ← List.append_assoc, lacks_append_laterText (by decide) (by decide)]
  by_cases some_ : conditions = []
  · subst some_
    simpa [whereClause] using lacksHead
  · rw [whereClause_eq some_, lacks_append_cons (by decide) rfl, lacks_append_cons (by decide) rfl]
    exact ⟨lacksHead, by decide, lacks_joined (by decide) lacks⟩

/-- The predicate holds all conditions, if there are any. -/
theorem predicate_plan (tidy : ∀ condition ∈ conditions, IsTidy condition)
    (lacks : ∀ condition ∈ conditions, ∀ word ∈ clauseStarts, Lacks word condition) :
    (statement.plan conditions).predicate =
      if conditions = [] then none else some (String.ofList (joined conditions)) := by
  change (whereText? (statement.bare conditions)).bind nonBlank? = _
  rw [bare_eq]
  by_cases some_ : conditions = []
  · subst some_
    have lacksWhere : Lacks "WHERE" (statement.head ++ laterText statement.later) :=
      (lacks_append_laterText (by decide) (by decide) _).mpr statement.lacks_where_head
    have absent : whereText? (statement.head ++ laterText statement.later) = none :=
      clauseText?_absent (needsWord_clause "WHERE" conditionEnds?) lacksWhere
    rw [whereClause, List.nil_append, absent, if_pos rfl, Option.bind_none]
  · have whole := isTidy_joined some_ tidy
    have ends : endsWord (laterText statement.later) = true := by
      cases statement.later <;> rfl
    have found := whereText?_here statement.lacks_where_head ⟨"WHERE".toList, by decide⟩ whole
      (fun word isStart => lacks_joined isStart fun condition listed =>
        lacks condition listed word isStart) ends (conditionEnds?_laterText statement.later)
    rw [if_neg some_, whereClause_eq some_]
    simp only [List.cons_append, List.append_assoc] at found ⊢
    rw [found]
    exact (SpacedText.mk (joined conditions) whole.ne_nil whole.cleaned).nonBlank?_text

theorem length_whereClause_le (front : List (List Char)) (condition : List Char)
    (back : List (List Char)) :
    (whereClause (front ++ back)).length ≤ (whereClause (front ++ condition :: back)).length := by
  cases front with
  | nil =>
    cases back with
    | nil => exact Nat.zero_le _ -- without a condition there is no WHERE either
    | cons next back =>
      simp only [List.nil_append, whereClause, joined_cons, andEach_cons, List.length_cons,
        List.length_append]
      omega
  | cons first front =>
    simp only [List.cons_append, whereClause, joined_cons, andEach, List.flatMap_append,
      List.flatMap_cons, List.length_cons, List.length_append]
    omega

theorem length_text_le (front : List (List Char)) (condition : List Char)
    (back : List (List Char)) : (statement.text (front ++ back)).length ≤
      (statement.text (front ++ condition :: back)).length := by
  have shorter := length_whereClause_le front condition back
  simp only [text_eq, body_eq, List.length_cons, List.length_append]
  omega

end AliasedSelect

end DocQuery.Select

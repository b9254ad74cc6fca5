import DocQuery.Proofs.Statement.ConditionText
import DocQuery.Proofs.Statement.ExistsCut

/-! # Reading written SELECTs

A SELECT that is written by the grammar is read as what it says, whichever of its parts are there.

* `WrittenSelect.bare` — the statement without its modifiers.
* `WrittenSelect.whereText?_bare`, `groupByText?_bare`, … — each clause is read as it is written.
* `extractSelect_written` — the plan of the statement.
-/

namespace DocQuery.Select

open DocQuery.Text

variable {sql : String} {word : String} {s : List Char}

/-! ## Words of clauses -/

theorem mem_clauseWords (isStart : word ∈ clauseStarts) : word ∈ clauseWords :=
  List.mem_append_left _ isStart

namespace WrittenClause

variable {own : String} (clause : WrittenClause own)

theorem isTidy (isKeyword : IsKeyword own) : IsTidy clause.text :=
  (clause.keyword.isWord isKeyword).isTidy.append_space clause.body.isTidy

theorem lacks (isKeyword : IsKeyword own) (isStart : word ∈ clauseStarts) (other : own ≠ word) :
    Lacks word clause.text := by
  have isWord := isKeyword_of_mem_clauseWords word (mem_clauseWords isStart)
  rw [text, lacks_append_cons isWord rfl]
  exact ⟨clause.keyword.lacks isKeyword isWord other, clause.body.lacks word isStart⟩

end WrittenClause

namespace WrittenGrouping

variable (grouping : WrittenGrouping)

theorem columns_keys : ∀ key ∈ grouping.keys.items, IsColumn (Identifier.text key) :=
  fun key _ => key.isColumn

theorem lacks_keysText (isClause : word ∈ clauseWords) : Lacks word grouping.keysText :=
  grouping.keys.lacks (isKeyword_of_mem_clauseWords word isClause) fun key _ => key.lacks isClause

theorem isListItem_keys : ∀ key ∈ grouping.keys.items, IsListItem (Identifier.text key) :=
  fun key listed => (grouping.columns_keys key listed).isListItem

theorem isTidy_keysText : IsTidy grouping.keysText :=
  CommaList.isTidy_text grouping.isListItem_keys

theorem isTidy : IsTidy grouping.text := by
  have keys : IsTidy (grouping.keysText ++ spaced WrittenClause.text grouping.having) :=
    isTidy_append_spaced grouping.isTidy_keysText fun clause => clause.isTidy (by decide)
  exact (grouping.group.isWord (by decide)).isTidy.append_space
    ((grouping.by_.isWord (by decide)).isTidy.append_space keys)

/-- The words of a grouping begin no clause but its own ones. -/
theorem lacks (isStart : word ∈ clauseStarts) (notGroup : "GROUP" ≠ word)
    (notHaving : "HAVING" ≠ word) : Lacks word grouping.text := by
  have isClause := mem_clauseWords isStart
  have isKeyword := isKeyword_of_mem_clauseWords word isClause
  have notBy : "BY" ≠ word := by
    rintro rfl
    exact absurd isStart (by decide)
  rw [text, lacks_append_cons isKeyword rfl, lacks_append_cons isKeyword rfl,
    lacks_append_spaced isKeyword]
  exact ⟨grouping.group.lacks (by decide) isKeyword notGroup,
    grouping.by_.lacks (by decide) isKeyword notBy, grouping.lacks_keysText isClause,
    fun clause _ => clause.lacks (by decide) isStart notHaving⟩

/-- The keys are read up to the spaces around them. -/
theorem groupKeys_keysText :
    groupKeys grouping.keysText = grouping.keys.items.map Identifier.name := by
  have split := CommaList.splitAt_spaced .closed .closed grouping.columns_keys
  rw [Gap.text, List.nil_append, List.append_nil] at split
  have nonBlank (pieces : List (List Char)) (keys : List Identifier)
      (trimmed : pieces.map trim = keys.map Identifier.text) :
      pieces.filterMap nonBlank? = keys.map Identifier.name := by
    induction pieces generalizing keys with
    | nil =>
      cases keys with
      | nil => rfl
      | cons key keys => cases trimmed
    | cons piece pieces ih =>
      cases keys with
      | nil => cases trimmed
      | cons key keys =>
        rw [List.map_cons, List.map_cons, List.cons.injEq] at trimmed
        have nonempty := key.isColumn.isWord.nonempty
        have here : nonBlank? piece = some key.name := by
          rw [nonBlank?, trimmed.1]
          simp only [key.ofList_text]
        rw [List.filterMap_cons_some here, ih keys trimmed.2, List.map_cons]
  exact nonBlank _ _ split

end WrittenGrouping

namespace WrittenOrder

variable (order : WrittenOrder)

theorem isTidy : IsTidy order.text :=
  (order.order.isWord (by decide)).isTidy.append_space
    ((order.by_.isWord (by decide)).isTidy.append_space order.body.isTidy)

theorem lacks (isStart : word ∈ clauseStarts) (notOrder : "ORDER" ≠ word) :
    Lacks word order.text := by
  have isKeyword := isKeyword_of_mem_clauseWords word (mem_clauseWords isStart)
  have notBy : "BY" ≠ word := by
    rintro rfl
    exact absurd isStart (by decide)
  rw [text, lacks_append_cons isKeyword rfl, lacks_append_cons isKeyword rfl]
  exact ⟨order.order.lacks (by decide) isKeyword notOrder,
    order.by_.lacks (by decide) isKeyword notBy, order.body.lacks word isStart⟩

end WrittenOrder

/-! ## Where clauses begin -/

theorem atHaving?_text (clause : WrittenClause "HAVING") (s : List Char) :
    atHaving? (' ' :: (clause.text ++ s)) = some () := by
  have next := blanks?_word (clause.keyword.isWord (by decide)) (' ' :: (clause.body.text ++ s))
  simp only [atHaving?, WrittenClause.text, List.append_assoc, List.cons_append, next, bind,
    Option.bind_some, clause.keyword.keyword?_append]
  rfl

theorem atGroupBy?_text (grouping : WrittenGrouping) (s : List Char) :
    atGroupBy? (' ' :: (grouping.text ++ s)) = some () := by
  have next (s : List Char) := blanks?_word (grouping.group.isWord (by decide)) s
  have words (s : List Char) := grouping.group.keywords?_append grouping.by_ (by decide) s
  simp only [atGroupBy?, WrittenGrouping.text, List.append_assoc, List.cons_append, next, bind,
    Option.bind_some, words]
  rfl

theorem atOrderBy?_text (order : WrittenOrder) : atOrderBy? (' ' :: order.text) = some () := by
  have next (s : List Char) := blanks?_word (order.order.isWord (by decide)) s
  have words (s : List Char) := order.order.keywords?_append order.by_ (by decide) s
  simp only [atOrderBy?, WrittenOrder.text, next, bind, Option.bind_some, words]
  rfl

/-- What stops a condition on groups. -/
def havingEnds? (s : List Char) : Option Unit := atOrderBy? s <|> end? s

/-- What stops the keys of a grouping. -/
def groupByEnds? (s : List Char) : Option Unit := atHaving? s <|> (atOrderBy? s <|> end? s)

theorem havingEnds?_spaced (order : Option WrittenOrder) :
    havingEnds? (spaced WrittenOrder.text order) = some () := by
  rw [havingEnds?, orElse_eq_some]
  cases order with
  | none => exact .inr rfl
  | some order => exact .inl (atOrderBy?_text order)

theorem groupByEnds?_spaced (having : Option (WrittenClause "HAVING"))
    (order : Option WrittenOrder) : groupByEnds? (spaced WrittenClause.text having ++
      spaced WrittenOrder.text order) = some () := by
  rw [groupByEnds?, orElse_eq_some]
  cases having with
  | none => exact .inr (havingEnds?_spaced order)
  | some clause => exact .inl (atHaving?_text clause _)

theorem conditionEnds?_spaced (grouping : Option WrittenGrouping) (order : Option WrittenOrder) :
    conditionEnds? (spaced WrittenGrouping.text grouping ++ spaced WrittenOrder.text order) =
      some () := by
  rw [conditionEnds?, orElse_eq_some, orElse_eq_some]
  cases grouping with
  | none => exact .inr (.inr (havingEnds?_spaced order))
  | some grouping => exact .inl (atGroupBy?_text grouping _)

/-! ## Parts of a statement -/

section parts

variable {fields table body : List Char}

theorem lacks_select (isClause : word ∈ clauseWords) (notSelect : "SELECT" ≠ word) :
    Lacks word "SELECT".toList :=
  Keyword.lacks ⟨"SELECT".toList, by decide⟩ (by decide) (isKeyword_of_mem_clauseWords word isClause)
    notSelect

/-- The fields are read up to FROM. -/
theorem fieldsText?_here (tidy : IsTidy fields) (lacks : Lacks "FROM" fields)
    (from_ : Keyword "FROM") (s : List Char) :
    fieldsText? ("SELECT".toList ++ ' ' :: (fields ++ ' ' :: (from_.letters ++ ' ' :: s))) =
      some fields := by
  have next := tidy.blanks?_append (' ' :: (from_.letters ++ ' ' :: s))
  have stops : ((blanks? (' ' :: (from_.letters ++ ' ' :: s))).bind
      fun r => (keyword? "FROM" r).bind beforeBlank?) = some () := by
    rw [blanks?_word (from_.isWord (by decide)), Option.bind_some, from_.keyword?_append]
    rfl
  have cut : cutAt? (fun r => (blanks? r).bind fun r => (keyword? "FROM" r).bind beforeBlank?)
      (fields ++ ' ' :: (from_.letters ++ ' ' :: s)) = some (fields, ()) := by
    refine cutAt?_first tidy.ne_nil tidy.newline_notMem stops fun front back _ some_ same => ?_
    have isSuffix := same ▸ List.suffix_append front back
    exact bind_blanks?_inside (by decide) (needs_beforeBlank? "FROM").needsWord lacks tidy.ends
      isSuffix some_ rfl
  simp only [fieldsText?, keyword?_select, bind, Option.bind_some, next]
  rw [cut]
  rfl

/-- The table is the word behind the first FROM. -/
theorem tableName?_here (lacks : Lacks "FROM" fields) (from_ : Keyword "FROM")
    (isTable : IsTable table s) :
    tableName? ("SELECT".toList ++ ' ' :: (fields ++ ' ' :: (from_.letters ++ ' ' ::
      (table ++ s)))) = some table := by
  have lacksFront : Lacks "FROM" ("SELECT".toList ++ ' ' :: fields) := by
    rw [lacks_append_cons (by decide) rfl]
    exact ⟨lacks_select (by decide) (by decide), lacks⟩
  have needs : NeedsWord "FROM" fun r => (keyword? "FROM" r).bind fun r => (blanks? r).bind word? :=
    (needs_keyword "FROM" word?).needsWord
  have here : ((keyword? "FROM" (from_.letters ++ ' ' :: (table ++ s))).bind
      fun r => (blanks? r).bind word?) = some (table, s) := by
    rw [from_.keyword?_append, Option.bind_some, blanks?_word isTable.isWord, Option.bind_some,
      isTable.word?_eq]
  have parts : "SELECT".toList ++ ' ' :: (fields ++ ' ' :: (from_.letters ++ ' ' :: (table ++ s))) =
      ("SELECT".toList ++ ' ' :: fields) ++ ' ' :: (from_.letters ++ ' ' :: (table ++ s)) := by
    simp
  simp only [tableName?, bind]
  rw [parts, searchWord?_append needs lacksFront (by decide), searchWord?, search?_here rfl here]
  rfl

/-- The condition is read up to the first clause behind it. -/
theorem whereText?_here {front : List Char} (lacksFront : Lacks "WHERE" front)
    (keyword : Keyword "WHERE") (tidy : IsTidy body) (lacks : ∀ word ∈ clauseStarts, Lacks word body)
    (behind : endsWord s = true) (stops : conditionEnds? s = some ()) :
    whereText? (front ++ ' ' :: (keyword.letters ++ ' ' :: (body ++ s))) = some body := by
  have inside : ∀ back, back <:+ body → back ≠ [] → conditionEnds? (back ++ s) = none := by
    intro back isSuffix more
    rw [conditionEnds?,
      atGroupBy?_inside tidy.ends isSuffix more behind (lacks _ (by decide)),
      atHaving?_inside tidy.ends isSuffix more behind (lacks _ (by decide)),
      atOrderBy?_inside tidy.ends isSuffix more behind (lacks _ (by decide)), atEnd?_inside more]
    rfl
  have here : clause? (keyword? "WHERE") conditionEnds? (keyword.letters ++ ' ' :: (body ++ s)) =
      some body :=
    clause?_eq_some (keyword.keyword?_append _) tidy stops inside
  exact clauseText?_here (by decide) (needsWord_clause "WHERE" conditionEnds?) lacksFront here

end parts

/-! ## Statements without modifiers -/

namespace WrittenSelect

variable (statement : WrittenSelect)

/-- The statement up to its table, without modifiers. -/
def head : List Char :=
  "SELECT".toList ++ ' ' :: (statement.fieldsText ++ ' ' :: (statement.from_.letters ++ ' ' ::
    statement.table.text))

/-- The statement without modifiers. -/
def bare : List Char := "SELECT".toList ++ ' ' :: statement.body

-- stated by hand: the equations that Lean makes of the definitions compute the letters of SELECT
theorem head_eq_append : statement.head = "SELECT".toList ++ ' ' :: (statement.fieldsText ++
    ' ' :: (statement.from_.letters ++ ' ' :: statement.table.text)) := rfl

theorem bare_eq_append : statement.bare = "SELECT".toList ++ ' ' :: statement.body := rfl

theorem bare_eq : statement.bare = statement.head ++
    (spaced WrittenClause.text statement.condition ++ statement.afterCondition) := by
  simp [bare_eq_append, head_eq_append, body]

theorem lacks_head (isStart : word ∈ clauseStarts) (notSelect : "SELECT" ≠ word)
    (notFrom : "FROM" ≠ word) : Lacks word statement.head := by
  have isClause := mem_clauseWords isStart
  have isKeyword := isKeyword_of_mem_clauseWords word isClause
  have notAs : "AS" ≠ word := by
    rintro rfl
    exact absurd isStart (by decide)
  rw [head_eq_append, lacks_append_cons isKeyword rfl, lacks_append_cons isKeyword rfl,
    lacks_append_cons isKeyword rfl]
  exact ⟨lacks_select isClause notSelect, lacks_fieldList statement.fields isClause notAs,
    statement.from_.lacks (by decide) isKeyword notFrom, statement.table.lacks isClause⟩

theorem isTidy_body : IsTidy statement.body := by
  have target : IsTidy (statement.table.text ++
      (spaced WrittenClause.text statement.condition ++ statement.afterCondition)) := by
    rw [afterCondition, ← List.append_assoc, ← List.append_assoc]
    refine isTidy_append_spaced (isTidy_append_spaced ?_ WrittenGrouping.isTidy) WrittenOrder.isTidy
    exact isTidy_append_spaced statement.table.isColumn.isWord.isTidy fun clause =>
      clause.isTidy (by decide)
  exact (isTidy_fieldList statement.fields).append_space
    ((statement.from_.isWord (by decide)).isTidy.append_space target)

/-- The text of a statement is not changed by cleaning. -/
theorem isTidy_text : IsTidy statement.text :=
  (statement.select.isWord (by decide)).isTidy.append_space
    (isTidy_headText statement.modifiers statement.isTidy_body)

/-! ## What is read of them -/

theorem fieldsText?_bare : fieldsText? statement.bare = some statement.fieldsText :=
  fieldsText?_here (isTidy_fieldList statement.fields)
    (lacks_fieldList statement.fields (by decide) (by decide)) statement.from_ _

theorem tableName?_bare : tableName? statement.bare = some statement.table.text :=
  tableName?_here (lacks_fieldList statement.fields (by decide) (by decide)) statement.from_
    ⟨statement.table.isName.nonempty, statement.table.isName.members,
      endsWord_spaced _ _ (endsWord_spaced _ _ (by cases statement.order <;> rfl))⟩

theorem takeExists_bare : takeExists statement.bare = (none, statement.bare) := by
  have isKeyword : IsKeyword "EXISTS" := by decide
  refine takeExists_lacks ?_
  rw [bare_eq, afterCondition, ← List.append_assoc, ← List.append_assoc,
    lacks_append_spaced isKeyword, lacks_append_spaced isKeyword, lacks_append_spaced isKeyword]
  exact ⟨⟨⟨statement.lacks_head (by decide) (by decide) (by decide),
    fun clause _ => clause.lacks (by decide) (by decide) (by decide)⟩,
    fun grouping _ => grouping.lacks (by decide) (by decide) (by decide)⟩,
    fun order _ => order.lacks (by decide) (by decide)⟩

theorem whereText?_bare :
    whereText? statement.bare = statement.condition.map (·.body.text) := by
  have isKeyword : IsKeyword "WHERE" := by decide
  have needs := needsWord_clause "WHERE" conditionEnds?
  have lacksHead : Lacks "WHERE" statement.head :=
    statement.lacks_head (by decide) (by decide) (by decide)
  rw [bare_eq]
  cases written : statement.condition with
  | none =>
    refine clauseText?_absent needs ?_
    rw [spaced, List.nil_append, afterCondition, ← List.append_assoc, lacks_append_spaced isKeyword,
      lacks_append_spaced isKeyword]
    exact ⟨⟨lacksHead, fun grouping _ => grouping.lacks (by decide) (by decide) (by decide)⟩,
      fun order _ => order.lacks (by decide) (by decide)⟩
  | some clause =>
    have behind : endsWord statement.afterCondition = true :=
      endsWord_spaced _ _ (by cases statement.order <;> rfl)
    have found := whereText?_here lacksHead clause.keyword clause.body.isTidy clause.body.lacks
      behind (conditionEnds?_spaced statement.grouping statement.order)
    simpa [spaced, WrittenClause.text] using found

theorem groupByText?_bare : groupByText? statement.bare =
    statement.grouping.map WrittenGrouping.keysText := by
  have isKeyword : IsKeyword "GROUP" := by decide
  have needs := needsWord_clauses "GROUP" "BY" groupByEnds?
  have lacksFront : Lacks "GROUP"
      (statement.head ++ spaced WrittenClause.text statement.condition) := by
    rw [lacks_append_spaced isKeyword]
    exact ⟨statement.lacks_head (by decide) (by decide) (by decide),
      fun clause _ => clause.lacks (by decide) (by decide) (by decide)⟩
  change clauseText? (keywords? "GROUP" "BY") groupByEnds? _ = _
  rw [bare_eq, afterCondition, ← List.append_assoc]
  cases written : statement.grouping with
  | none =>
    refine clauseText?_absent needs ?_
    rw [spaced, List.nil_append, lacks_append_spaced isKeyword]
    exact ⟨lacksFront, fun order _ => order.lacks (by decide) (by decide)⟩
  | some grouping =>
    have behind : endsWord (spaced WrittenClause.text grouping.having ++
        spaced WrittenOrder.text statement.order) = true :=
      endsWord_spaced _ _ (by cases statement.order <;> rfl)
    have inside : ∀ back, back <:+ grouping.keysText → back ≠ [] →
        groupByEnds? (back ++ (spaced WrittenClause.text grouping.having ++
          spaced WrittenOrder.text statement.order)) = none := by
      intro back isSuffix more
      have ends := grouping.isTidy_keysText.ends
      rw [groupByEnds?,
        atHaving?_inside ends isSuffix more behind (grouping.lacks_keysText (by decide)),
        atOrderBy?_inside ends isSuffix more behind (grouping.lacks_keysText (by decide)),
        atEnd?_inside more]
      rfl
    have here : clause? (keywords? "GROUP" "BY") groupByEnds?
        (grouping.group.letters ++ ' ' :: (grouping.by_.letters ++ ' ' :: (grouping.keysText ++
          (spaced WrittenClause.text grouping.having ++ spaced WrittenOrder.text statement.order)))) =
        some grouping.keysText :=
      clause?_eq_some (grouping.group.keywords?_append grouping.by_ (by decide) _)
        grouping.isTidy_keysText
        (groupByEnds?_spaced grouping.having statement.order) inside
    have found := clauseText?_here isKeyword needs lacksFront here
    simpa [spaced, WrittenGrouping.text] using found

theorem havingText?_bare {grouping : WrittenGrouping} (written : statement.grouping = some grouping) :
    havingText? statement.bare = grouping.having.map (·.body.text) := by
  have isKeyword : IsKeyword "HAVING" := by decide
  have needs := needsWord_clause "HAVING" havingEnds?
  have lacksFront : Lacks "HAVING" ((statement.head ++
      spaced WrittenClause.text statement.condition) ++ ' ' :: (grouping.group.letters ++ ' ' ::
        (grouping.by_.letters ++ ' ' :: grouping.keysText))) := by
    rw [lacks_append_cons isKeyword rfl, lacks_append_spaced isKeyword,
      lacks_append_cons isKeyword rfl, lacks_append_cons isKeyword rfl]
    exact ⟨⟨statement.lacks_head (by decide) (by decide) (by decide),
      fun clause _ => clause.lacks (by decide) (by decide) (by decide)⟩,
      grouping.group.lacks (by decide) isKeyword (by decide),
      grouping.by_.lacks (by decide) isKeyword (by decide), grouping.lacks_keysText (by decide)⟩
  have parts : statement.bare = (((statement.head ++
      spaced WrittenClause.text statement.condition) ++ ' ' :: (grouping.group.letters ++ ' ' ::
        (grouping.by_.letters ++ ' ' :: grouping.keysText))) ++
          spaced WrittenClause.text grouping.having) ++ spaced WrittenOrder.text statement.order := by
    rw [bare_eq, afterCondition, written]
    simp [spaced, WrittenGrouping.text]
  change clauseText? (keyword? "HAVING") havingEnds? _ = _
  rw [parts]
  cases grouping.having with
  | none =>
    refine clauseText?_absent needs ?_
    rw [spaced, List.append_nil, lacks_append_spaced isKeyword]
    exact ⟨lacksFront, fun order _ => order.lacks (by decide) (by decide)⟩
  | some clause =>
    obtain ⟨keyword, body⟩ := clause
    have behind : endsWord (spaced WrittenOrder.text statement.order) = true := by
      cases statement.order <;> rfl
    have inside : ∀ back, back <:+ body.text → back ≠ [] →
        havingEnds? (back ++ spaced WrittenOrder.text statement.order) = none := by
      intro back isSuffix more
      rw [havingEnds?,
        atOrderBy?_inside body.isTidy.ends isSuffix more behind (body.lacks _ (by decide)),
        atEnd?_inside more]
      rfl
    have here : clause? (keyword? "HAVING") havingEnds? (keyword.letters ++ ' ' ::
        (body.text ++ spaced WrittenOrder.text statement.order)) = some body.text :=
      clause?_eq_some (keyword.keyword?_append _) body.isTidy
        (havingEnds?_spaced statement.order) inside
    have found := clauseText?_here isKeyword needs lacksFront here
    have behindKeys : spaced WrittenClause.text (some (WrittenClause.mk keyword body)) ++
        spaced WrittenOrder.text statement.order = ' ' :: (keyword.letters ++ ' ' ::
          (body.text ++ spaced WrittenOrder.text statement.order)) := by
      simp [spaced, WrittenClause.text]
    rw [List.append_assoc, behindKeys, found]
    rfl

theorem orderByText?_bare :
    orderByText? statement.bare = statement.order.map (·.body.text) := by
  have isKeyword : IsKeyword "ORDER" := by decide
  have needs := needsWord_clauses "ORDER" "BY" end?
  have lacksFront : Lacks "ORDER" ((statement.head ++
      spaced WrittenClause.text statement.condition) ++
        spaced WrittenGrouping.text statement.grouping) := by
    rw [lacks_append_spaced isKeyword, lacks_append_spaced isKeyword]
    exact ⟨⟨statement.lacks_head (by decide) (by decide) (by decide),
      fun clause _ => clause.lacks (by decide) (by decide) (by decide)⟩,
      fun grouping _ => grouping.lacks (by decide) (by decide) (by decide)⟩
  change clauseText? (keywords? "ORDER" "BY") end? _ = _
  rw [bare_eq, afterCondition, ← List.append_assoc, ← List.append_assoc]
  cases statement.order with
  | none =>
    refine clauseText?_absent needs ?_
    rwa [spaced, List.append_nil]
  | some order =>
    have here : clause? (keywords? "ORDER" "BY") end? (order.order.letters ++ ' ' ::
        (order.by_.letters ++ ' ' :: (order.body.text ++ []))) = some order.body.text :=
      clause?_eq_some (order.order.keywords?_append order.by_ (by decide) _) order.body.isTidy
        rfl fun back _ more => atEnd?_inside more
    rw [List.append_nil] at here
    exact clauseText?_here isKeyword needs lacksFront here

end WrittenSelect

/-! ## The plan -/

namespace WrittenSelect

variable (statement : WrittenSelect)

/-- No modifier stands in front of the fields. -/
theorem wholeKeyword?_body (isClause : word ∈ clauseWords) (notAs : "AS" ≠ word) :
    wholeKeyword? word statement.body = none := by
  rw [body, wholeKeyword?_append (isKeyword_of_mem_clauseWords word isClause) rfl, fieldsText,
    wholeKeyword?_fieldList statement.fields isClause notAs, Option.map_none]

theorem isListItem_fields : ∀ item ∈ statement.fields.items, IsListItem (FieldItem.text item) :=
  isListItem_of_mem statement.fields

end WrittenSelect

/-- A SELECT that is written by the grammar is read as what it says. The text is compared after
cleaning, so blanks of any kind and number may stand where it has spaces. -/
theorem extractSelect_written (statement : WrittenSelect) (sql : String)
    (written : clean sql.toList = statement.text) (short : statement.text.length ≤ maxLength) :
    extractSelect sql = .ok statement.plan := by
  have noModifier : modifier? statement.body = none :=
    modifier?_eq_none (statement.wholeKeyword?_body (by decide) (by decide))
      (statement.wholeKeyword?_body (by decide) (by decide))
      (statement.wholeKeyword?_body (by decide) (by decide))
  have window : takeWindow sql statement.text = _ :=
    takeWindow_headText statement.select statement.once statement.isTidy_body noModifier
  have withoutDistinct : takeDistinct _ = (_, statement.bare) :=
    takeDistinct_headText statement.once statement.isTidy_body
      (statement.wholeKeyword?_body (by decide) (by decide))
  have items : readItems sql none (splitList statement.fieldsText) =
      .ok (statement.fields.items.map FieldItem.output,
        statement.fields.items.findSome? FieldItem.call?) := by
    rw [WrittenSelect.fieldsText, CommaList.splitList_text statement.isListItem_fields]
    exact readItems_text statement.fields.items none statement.oneCall
  have stages := extractSelect_of_stages
    (by rw [written, List.take_of_length_le short]; exact window) withoutDistinct
    statement.takeExists_bare statement.fieldsText?_bare statement.tableName?_bare items
  have predicate : (whereText? statement.bare).bind nonBlank? =
      statement.condition.map WrittenClause.content := by
    rw [statement.whereText?_bare]
    cases statement.condition with
    | none => rfl
    | some clause => exact clause.body.nonBlank?_text
  have orderBy : (orderByText? statement.bare).bind nonBlank? =
      statement.order.map WrittenOrder.content := by
    rw [statement.orderByText?_bare]
    cases statement.order with
    | none => rfl
    | some order => exact order.body.nonBlank?_text
  have groupBy : ((groupByText? statement.bare).map fun keys =>
      (⟨groupKeys keys, (havingText? statement.bare).bind nonBlank?⟩ : GroupBy)) =
      statement.grouping.map WrittenGrouping.groupBy := by
    rw [statement.groupByText?_bare]
    cases grouped : statement.grouping with
    | none => rfl
    | some grouping =>
      rw [Option.map_some, Option.map_some, Option.map_some, grouping.groupKeys_keysText,
        statement.havingText?_bare grouped, WrittenGrouping.groupBy]
      cases grouping.having with
      | none => rfl
      | some clause => rw [Option.map_some, Option.bind_some, clause.body.nonBlank?_text]; rfl
  rw [stages, predicate, orderBy, groupBy, statement.table.ofList_text]
  rfl

/-- A statement with all its parts, in letters of both cases. -/
def fullSelect : WrittenSelect where
  select := ⟨"select".toList, by decide⟩
  modifiers := [.top ⟨"TOP".toList, by decide⟩ ⟨['3'], by decide, by decide, by decide⟩ (by decide),
    .distinct ⟨"Distinct".toList, by decide⟩,
    .skip ⟨"skip".toList, by decide⟩ ⟨['0', '7'], by decide, by decide, by decide⟩]
  once := by decide
  fields := .cons (.column ⟨"kind", by decide, by decide⟩) .space .closed
    (.last (.apply .sum ⟨"Sum".toList, by decide⟩ .closed .space .space
      ⟨"price", by decide, by decide⟩
      (some ⟨⟨"as".toList, by decide⟩, ⟨"total", by decide, by decide⟩⟩)))
  oneCall := by decide
  from_ := ⟨"FROM".toList, by decide⟩
  table := ⟨"items", by decide, by decide⟩
  condition := some ⟨⟨"where".toList, by decide⟩,
    ⟨⟨"a > 1 AND top = 2".toList, by decide, by decide⟩, by decide⟩⟩
  grouping := some ⟨⟨"Group".toList, by decide⟩, ⟨"by".toList, by decide⟩,
    .last ⟨"kind", by decide, by decide⟩,
    some ⟨⟨"HAVING".toList, by decide⟩, ⟨⟨"total < 9".toList, by decide, by decide⟩, by decide⟩⟩⟩
  order := some ⟨⟨"order".toList, by decide⟩, ⟨"BY".toList, by decide⟩,
    ⟨⟨"total DESC".toList, by decide, by decide⟩, by decide⟩⟩

/-- Blanks of all kinds stand between the words, and none around a comma. -/
theorem extractSelect_full :
    extractSelect ("  select TOP\t3 Distinct skip 07  kind ,Sum( price\n) as total FROM items " ++
      "where a >  1 AND top = 2 Group by\n kind HAVING total < 9 order BY total DESC ") =
      .ok {
        table := "items", fields := ["kind", "total"], predicate := some "a > 1 AND top = 2"
        orderBy := some "total DESC", top := some 3, skip := some 7, distinct := true
        aggregate := some (.apply .sum "price" "total")
        groupBy := some ⟨["kind"], some "total < 9"⟩, exists_ := none } := by
  -- letters stand for the text, since the kernel takes long to decode a long text
  have letters : ("  select TOP\t3 Distinct skip 07  kind ,Sum( price\n) as total FROM items " ++
      "where a >  1 AND top = 2 Group by\n kind HAVING total < 9 order BY total DESC ").toList = _ :=
    String.toList_append.trans (congrArg₂ _ String.toList_ofList String.toList_ofList)
  refine (extractSelect_written fullSelect _ ?_ (by decide +kernel)).trans rfl
  rw [letters]
  decide +kernel

end DocQuery.Select

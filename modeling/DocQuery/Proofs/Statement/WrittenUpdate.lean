import DocQuery.Proofs.Condition.Shapes
import DocQuery.Proofs.Statement.WrittenInsert
import DocQuery.Proofs.Value.NamedEntries

/-! # Reading written UPDATEs and DELETEs

The assignments of an UPDATE are as short as its condition allows, so they end at the first word
WHERE. A statement that is written by the grammar has no such word in front of its condition.

* `WhereClause.optionalWhere?_spaced` — the condition, or that there is none.
* `WrittenAssignment.assignment?_text` — the path and the literal of an assignment.
* `UpdateStatement.extract_eq`, `DeleteStatement.extract_eq` — the plans.
* `extract_written` — what is read from all three writing statements.
-/

namespace DocQuery.Write

open DocQuery.Text DocQuery.Condition

variable {sql : String} {s t w : List Char}

/-! ## Conditions -/

namespace WhereClause

variable (clause : WhereClause)

theorem isTidy : IsTidy clause.text :=
  (clause.keyword.isWord (by decide)).isTidy.append_space clause.body.isTidy

/-- What follows the last token is the condition, if there is one. -/
theorem optionalWhere?_spaced (condition : Option WhereClause) :
    optionalWhere? (spaced WhereClause.text condition) =
      some (condition.map fun clause => clause.body.text) := by
  cases condition with
  | none => rfl
  | some clause =>
    have next := (clause.keyword.isWord (by decide)).isTidy.blanks?_append (' ' :: clause.body.text)
    have body := clause.body.isTidy.blanks?_append []
    rw [List.append_nil] at body
    have rest : someLine? clause.body.text = some clause.body.text := by
      simp [someLine?, line?, clause.body.nonempty, clause.body.isTidy.newline_notMem]
    simp only [spaced, WhereClause.text, optionalWhere?, whereTail?, bind, next, Option.bind_some,
      clause.keyword.keyword?_append, body, rest, Option.map_some]

theorem nonBlank?_map (condition : Option WhereClause) :
    (condition.map fun clause => clause.body.text).bind nonBlank? =
      condition.map WhereClause.content := by
  cases condition with
  | none => rfl
  | some clause => exact clause.body.nonBlank?_text

end WhereClause

theorem optionalWhere?_eq_none (nonempty : s ≠ [])
    (noKeyword : ∀ next, blanks? s = some next → (keyword? "WHERE" next).bind blanks? = none) :
    optionalWhere? s = none := by
  have noTail : whereTail? s = none := by
    simp only [whereTail?, bind]
    rw [Option.bind_eq_none_iff]
    intro next found
    rw [← Option.bind_assoc, noKeyword next found, Option.bind_none]
  simp [optionalWhere?, noTail, nonempty]

/-- What is set has no word WHERE, so it is not cut. -/
theorem cutAt?_avoids (tidy : IsTidy w) (avoids : Avoids "WHERE" w)
    (condition : Option WhereClause) :
    cutAt? optionalWhere? (w ++ spaced WhereClause.text condition) =
      some (w, condition.map fun clause => clause.body.text) := by
  have behind : (spaced WhereClause.text condition).head?.all isBlank = true := by
    cases condition <;> rfl
  refine cutAt?_first tidy.ne_nil tidy.newline_notMem (WhereClause.optionalWhere?_spaced condition)
    fun front back _ more same => ?_
  have isSuffix : back <:+ w := ⟨front, same.symm⟩
  refine optionalWhere?_eq_none (by simp [more]) fun next found => ?_
  exact avoids.inside tidy.ends isSuffix more found (by decide) behind

/-! ## Assignments -/

namespace DottedPath

variable (path : DottedPath)

theorem members : ∀ c ∈ path.text, c = '.' ∨ isWordChar c = true := by
  intro c member
  rw [text, List.mem_append, List.mem_flatMap] at member
  rcases member with inFirst | ⟨name, -, inOther⟩
  · exact .inr (path.first.isName.members c inFirst)
  · exact (List.mem_cons.mp inOther).imp_right (name.isName.members c)

theorem isWord : IsWord path.text := by
  refine ⟨?_, fun c member => ?_⟩
  · have nonempty : path.first.text ≠ [] := path.first.isName.nonempty
    simp [text, nonempty]
  · rcases path.members c member with rfl | isMember
    · rfl
    · exact isBlank_of_isWordChar isMember

theorem isPlain : ∀ c ∈ path.text, isPlain c = true := by
  intro c member
  rcases path.members c member with rfl | isMember
  · rfl
  · exact (IsColumn.named (w := [c]) (by simp) (by simpa using isMember)).isPlain c (by simp)

/-- A path is read up to what does not go on with it. -/
theorem path?_append (ends : pathTail s = ([], s)) : path? (path.text ++ s) = some (path.text, s) := by
  have others : pathTail (path.others.flatMap (fun name => '.' :: name.text) ++ s) =
      (path.others.flatMap (fun name => '.' :: name.text), s) := by
    induction path.others with
    | nil => exact ends
    | cons name others ih =>
      rw [List.flatMap_cons, List.append_assoc, List.cons_append, WrittenName.text,
        pathTail_name name.isName, ih]
      rfl
  obtain ⟨nonempty, members⟩ : path.first.text ≠ [] ∧ ∀ c ∈ path.first.text, isWordChar c = true :=
    ⟨path.first.isName.nonempty, path.first.isName.members⟩
  rw [text, List.append_assoc]
  cases letters : path.first.text with
  | nil => exact absurd letters nonempty
  | cons c w =>
    rw [letters] at members
    obtain ⟨here, later⟩ := List.forall_mem_cons.mp members
    rw [List.cons_append, path?, if_pos here, pathTail_word later, others]
    rfl

end DottedPath

namespace WrittenAssignment

variable (assignment : WrittenAssignment)

theorem isListItem : IsListItem assignment.text where
  toIsTidy := by
    have value := assignment.value.isListItem.toIsTidy
    have signed := assignment.afterSign.isTidy_append (isTidy_char (c := '=') rfl) value
    exact assignment.beforeSign.isTidy_append assignment.path.isWord.isTidy signed
  together := by
    have value := assignment.value.isListItem.together
    have behind : StaysTogether (assignment.afterSign.text ++ assignment.value.text) :=
      .append (.plain assignment.afterSign.isPlain_of_mem) value
    have signed : StaysTogether (['='] ++ (assignment.afterSign.text ++ assignment.value.text)) :=
      .append (.plain (by decide)) behind
    exact .append (.plain assignment.path.isPlain)
      (.append (.plain assignment.beforeSign.isPlain_of_mem) signed)

theorem avoids_where : Avoids "WHERE" assignment.text := by
  have single : words assignment.path.text = [assignment.path.text] := by
    simpa [words] using words_append (s := []) assignment.path.isWord rfl
  have path : Avoids "WHERE" assignment.path.text := by
    rw [Avoids, single, List.forall_mem_singleton]
    exact assignment.notWhere
  have value := assignment.value.avoids_where assignment.lacksWhere
  exact assignment.beforeSign.avoids_append_cons (by decide) path
    (assignment.afterSign.avoids_append.mpr value) rfl

theorem assignment?_text : assignment? assignment.text =
    some (assignment.path.text, assignment.value.text) := by
  have ends (rest : List Char) : pathTail (assignment.beforeSign.text ++ '=' :: rest) =
      ([], assignment.beforeSign.text ++ '=' :: rest) := by
    cases assignment.beforeSign <;> rfl
  have path := assignment.path.path?_append
    (ends (assignment.afterSign.text ++ assignment.value.text))
  have sign := assignment.beforeSign.char?_append (c := '=') rfl
  have tidy := assignment.value.isListItem.toIsTidy
  have value : skipBlanks (assignment.afterSign.text ++ assignment.value.text) =
      assignment.value.text := by
    rw [assignment.afterSign.skipBlanks_append, skipBlanks_eq_self tidy.first]
  have oneLine : line? assignment.value.text = some assignment.value.text := by
    simp [line?, tidy.newline_notMem]
  simp only [assignment?, text, path, bind, Option.bind_some, sign, value, oneLine]

theorem readAssignments_map (assignments : List WrittenAssignment) (done : Named Literal) :
    readAssignments (assignments.map WrittenAssignment.text) done =
      .ok ((assignments.map fun assignment => (assignment.target, assignment.value.literal)).foldl
        (fun map entry => Named.insert entry.1 entry.2 map) done) := by
  induction assignments generalizing done with
  | nil => rfl
  | cons assignment rest ih =>
    rw [List.map_cons, readAssignments, assignment.assignment?_text]
    simp only [assignment.value.parse_text, ih, List.map_cons, List.foldl_cons, target]

end WrittenAssignment

/-! ## UPDATE -/

namespace UpdateStatement

variable (statement : UpdateStatement)

theorem isListItem_assignments :
    ∀ assignment ∈ statement.assignments.items, IsListItem (WrittenAssignment.text assignment) :=
  fun assignment _ => assignment.isListItem

theorem isTidy_text : IsTidy statement.text := by
  have assignments : IsTidy (statement.assignmentsText ++
      spaced WhereClause.text statement.condition) :=
    isTidy_append_spaced (CommaList.isTidy_text statement.isListItem_assignments) WhereClause.isTidy
  have set := (statement.set.isWord (by decide)).isTidy.append_space assignments
  exact (statement.update.isWord (by decide)).isTidy.append_space
    (statement.table.isColumn.isWord.isTidy.append_space set)

theorem updateFrame?_text : updateFrame? statement.text = some (statement.table.text,
    statement.assignmentsText, statement.condition.map fun clause => clause.body.text) := by
  have tidy : IsTidy statement.assignmentsText :=
    CommaList.isTidy_text statement.isListItem_assignments
  have avoids : Avoids "WHERE" statement.assignmentsText :=
    CommaList.avoids (by decide) fun assignment _ => assignment.avoids_where
  have table (s : List Char) := (statement.table.isTable (s := ' ' :: s) rfl).word?_eq
  have isTable := statement.table.isColumn.isWord.isTidy.blanks?_append
  have isSet := (statement.set.isWord (by decide)).isTidy.blanks?_append
  have assignments := tidy.blanks?_append (spaced WhereClause.text statement.condition)
  have cut := cutAt?_avoids tidy avoids statement.condition
  simp only [updateFrame?, text, statement.update.keyword?_append, bind, Option.bind_some, isTable,
    table, isSet, statement.set.keyword?_append, assignments, cut]

theorem extract_eq (written : clean sql.toList = statement.text) :
    extractUpdate sql = .ok statement.plan := by
  have items := CommaList.splitList_text statement.isListItem_assignments
  have read := WrittenAssignment.readAssignments_map statement.assignments.items []
  simp only [extractUpdate, written, statement.updateFrame?_text, bind, Except.bind,
    assignmentsText, items, read, WhereClause.nonBlank?_map, statement.table.ofList_text]
  rfl

/-- The plan sets every path to the literal of its last assignment, and no other path. -/
theorem get?_plan (path : String) :
    statement.plan.assignments.get? path = statement.lastValue? path := by
  rw [plan, Named.get?_ofList, lastValue?, ← List.map_reverse, List.find?_map, Option.map_map]
  rfl

end UpdateStatement

/-! ## DELETE -/

namespace DeleteStatement

variable (statement : DeleteStatement)

theorem isTidy_text : IsTidy statement.text := by
  have table : IsTidy (statement.table.text ++ spaced WhereClause.text statement.condition) :=
    isTidy_append_spaced statement.table.isColumn.isWord.isTidy WhereClause.isTidy
  exact (statement.delete.isWord (by decide)).isTidy.append_space
    ((statement.from_.isWord (by decide)).isTidy.append_space table)

theorem extract_eq (written : clean sql.toList = statement.text) :
    extractDelete sql = .ok statement.plan := by
  have frame := statement.delete.keywords?_append statement.from_ (by decide)
  have ends : endsWord (spaced WhereClause.text statement.condition) = true := by
    cases statement.condition <;> rfl
  have isTable := statement.table.isTable ends
  have read : deleteFrame? statement.text = some (statement.table.text,
      statement.condition.map fun clause => clause.body.text) := by
    simp only [deleteFrame?, text, frame, bind, Option.bind_some,
      isTable.isWord.isTidy.blanks?_append, isTable.word?_eq, WhereClause.optionalWhere?_spaced]
  simp only [extractDelete, written, read, WhereClause.nonBlank?_map, statement.table.ofList_text]
  rfl

end DeleteStatement

/-! ## All statements -/

/-- A written statement is read as what it says, with any blanks between its words. An INSERT is
refused exactly if one of its rows does not fit its columns. -/
theorem extract_written (sql : String) :
    (∀ statement : InsertStatement, clean sql.toList = statement.text →
      ((∀ row ∈ statement.rows.items, ¬ statement.IsRagged row) →
        extractInsert sql = .ok statement.plan) ∧
      ((∃ row ∈ statement.rows.items, statement.IsRagged row) →
        ∃ row ∈ statement.rows.items, statement.IsRagged row ∧
          extractInsert sql = .error (.malformed (.valueCount row.literals.items.length
            statement.columns.items.length) sql))) ∧
    (∀ statement : UpdateStatement, clean sql.toList = statement.text →
      extractUpdate sql = .ok statement.plan ∧
      ∀ path, statement.plan.assignments.get? path = statement.lastValue? path) ∧
    (∀ statement : DeleteStatement, clean sql.toList = statement.text →
      extractDelete sql = .ok statement.plan) := by
  refine ⟨fun statement written => ?_, fun statement written => ?_, fun statement written => ?_⟩
  · rw [statement.extract_eq written]
    cases found : statement.rows.items.find? (statement.IsRagged ·) with
    | none =>
      have fit : ∀ row ∈ statement.rows.items, ¬ statement.IsRagged row := by
        simpa using List.find?_eq_none.mp found
      refine ⟨fun _ => rfl, ?_⟩
      rintro ⟨row, listed, ragged⟩
      exact absurd ragged (fit row listed)
    | some row =>
      have listed := List.mem_of_find?_eq_some found
      have ragged : statement.IsRagged row := by simpa using List.find?_some found
      exact ⟨fun fit => absurd ragged (fit row listed), fun _ => ⟨row, listed, ragged, rfl⟩⟩
  · exact ⟨statement.extract_eq written, statement.get?_plan⟩
  · exact statement.extract_eq written

/-- Two rows, of which the last one may lack its number. The strings hold what else separates. -/
def twoRows (last : CommaList WrittenLiteral) : InsertStatement where
  insert := ⟨"insert".toList, by decide⟩
  into := ⟨"INTO".toList, by decide⟩
  table := ⟨"t", by decide⟩
  beforeColumns := .closed
  beforeFirst := .space
  columns := .cons ⟨"a", by decide⟩ .closed .space (.last ⟨"b", by decide⟩)
  afterLast := .closed
  beforeValues := .space
  values := ⟨"Values".toList, by decide⟩
  beforeRows := .closed
  rows := .cons ⟨.closed, .cons (.string ⟨"x), (\"y", by decide, by decide, by decide⟩ (by decide))
    .closed .space (.last .null), .closed⟩ .closed .closed (.last ⟨.closed, last, .space⟩)

/-- One path is set twice, the first time to a string with a clause in it. -/
def setTwice : UpdateStatement where
  update := ⟨"UPDATE".toList, by decide⟩
  table := ⟨"t", by decide⟩
  set := ⟨"Set".toList, by decide⟩
  assignments := .cons ⟨⟨⟨"a", by decide⟩, [⟨"b", by decide⟩]⟩, by decide, .closed, .closed,
      .string ⟨"x = 1, c = 2", by decide, by decide, by decide⟩ (by decide), by decide⟩ .closed .space
    (.last ⟨⟨⟨"a", by decide⟩, [⟨"b", by decide⟩]⟩, by decide, .space, .space, .bool true, trivial⟩)
  condition := some ⟨⟨"Where".toList, by decide⟩, ⟨"a = 'where'".toList, by decide, by decide⟩⟩

/-- Without a condition. -/
def deleteAll : DeleteStatement where
  delete := ⟨"delete".toList, by decide⟩
  from_ := ⟨"from".toList, by decide⟩
  table := ⟨"t", by decide⟩
  condition := none

theorem extract_samples :
    extractInsert "insert INTO t( a, b) Values('x), (\"y', null),(7,  false )" =
      .ok ⟨"t", ["a", "b"], [[.string "x), (\"y", .null], [.int 7, .bool false]]⟩ ∧
    extractInsert "insert INTO t( a, b) Values('x), (\"y', null),(false )" =
      .error (.malformed (.valueCount 1 2)
        "insert INTO t( a, b) Values('x), (\"y', null),(false )") ∧
    extractUpdate "UPDATE t Set a.b='x = 1, c = 2',  a.b = true Where a = 'where'" =
      .ok ⟨"t", some "a = 'where'", [("a.b", .bool true)]⟩ ∧
    extractDelete "delete from t " = .ok ⟨"t", none⟩ := by
  refine ⟨?_, ?_, ?_, ?_⟩
  · have fits := (extract_written "insert INTO t( a, b) Values('x), (\"y', null),(7,  false )").1
      (twoRows (.cons (.int ⟨false, ['7'], by decide, by decide, by decide⟩) .closed .space
        (.last (.bool false)))) (by decide +kernel)
    exact fits.1 (by decide)
  · have refused := (extract_written "insert INTO t( a, b) Values('x), (\"y', null),(false )").1
      (twoRows (.last (.bool false))) (by decide +kernel)
    obtain ⟨row, listed, ragged, found⟩ := refused.2 (by decide)
    rw [found]
    rcases List.mem_pair.mp listed with rfl | rfl
    · exact absurd rfl ragged
    · rfl
  · exact ((extract_written _).2.1 setTwice (by decide +kernel)).1
  · exact (extract_written _).2.2 deleteAll (by decide +kernel)

end DocQuery.Write

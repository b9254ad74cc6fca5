import DocQuery.Proofs.Client.FoundRows
import DocQuery.Proofs.Statement.ColumnSelect
import DocQuery.Proofs.Statement.WrittenInsert
import DocQuery.Proofs.Store.InsertedRows

/-! # Inserted rows

An accepted INSERT of rows that fit its columns always succeeds. It appends one document for each
row and changes nothing else, and the list of each column is longer by the values of the rows.

* `Direct.run_valueList_all` — the list of a column of a table.
* `inserted_rows_are_appended` — both together, in every session.
* `longName_is_cut` — a table whose name is too long to be read in a SELECT.
-/

namespace DocQuery

open DocQuery.Text Write

variable {settings : Settings} {ids : IdSupply} {sql column table : String} {m : Memory}

/-! ## The direct client -/

namespace Direct

open DirectCall

theorem selected_columnPlan (settings : Settings) (ids : IdSupply) (column table : String)
    (m : Memory) :
    selected settings ids (columnPlan column table) [] m = .ok (m.documents table) := by
  have filter : (resolvedFilter ⟨settings, Memory.store ids⟩ (columnPlan column table) []).run m =
      (.ok .empty, m) := rfl
  rw [selected, filter]
  change (Memory.ofQuery (Filter.empty.select (m.documents table))).mapError SqlError.store = _
  rw [Filter.select_empty]
  rfl

/-- The list of a column has a value for each document. -/
theorem run_valueList_all (accepted : checkStatement settings.forbidCastSort sql = .ok ())
    (read : extractSelect (cleanStatement sql) = .ok (columnPlan column table))
    (allowed : settings.isAllowed table = true) (name : IsName column) :
    (valueList ⟨settings, Memory.store ids⟩ sql []).run m =
      (.ok ((m.documents table).map (·.groupValue column)), m) := by
  have top : (columnPlan column table).top ≠ some 0 := by simp [columnPlan]
  have unordered : (columnPlan column table).order id = .ok none := rfl
  have page (docs : List Document) : (columnPlan column table).page docs = docs :=
    SelectPlan.page_eq_self rfl rfl docs
  rw [run_valueList accepted read allowed top name rfl rfl unordered, selected_columnPlan]
  simp only [Except.map, page]
  rfl

/-- A SELECT that is read as one of another table is refused if that one is not allowed. -/
theorem run_valueList_refused {plan : SelectPlan} {params : Parameters}
    (accepted : checkStatement settings.forbidCastSort sql = .ok ())
    (read : extractSelect (cleanStatement sql) = .ok plan)
    (refused : settings.isAllowed plan.table = false) :
    (valueList ⟨settings, Memory.store ids⟩ sql params).run m =
      (.error (.tableNotAllowed plan.table), m) := by
  have stops : (prepareSelect ⟨settings, Memory.store ids⟩ (cleanStatement sql)).run m =
      (.error (.tableNotAllowed plan.table), m) := by
    rw [prepareSelect, run_bind_ok (run_ofExcept read m), checkTable, if_neg (by simp [refused])]
    rfl
  rw [valueList, run, run_bind_ok (run_ofExcept accepted m), run_bind, stops]

end Direct

/-! ## Rows -/

/-- The value of a row in one of its places. -/
def Write.WrittenRow.value? (row : WrittenRow) (place : Nat) : Option Value :=
  row.values[place]?.map Literal.toValue

namespace Write.InsertStatement

variable (statement : InsertStatement)

def columnNames : List String := statement.columns.items.map WrittenName.name

/-- The documents are those of the rows, one for each, in order. -/
structure AreRows (fresh : Nat → ObjectId) (docs : List Document) : Prop where
  length : docs.length = statement.rows.items.length
  each : ∀ place row (doc : Document), statement.rows.items[place]? = some row →
    docs[place]? = some doc →
    doc.IsRow statement.columnNames (row.values.map Literal.toValue) (fresh place)

variable {statement}

theorem areRows_assignIds (different : statement.columnNames.Nodup)
    (fits : ∀ row ∈ statement.rows.items, ¬ statement.IsRagged row) (ids : IdSupply)
    (issued : Nat) :
    statement.AreRows (fun place => ids (issued + place)) (Memory.assignIds ids issued
      (statement.plan.rows.map (Client.rowDocument statement.plan.columns))).1 := by
  have lengths :
      ∀ row ∈ statement.rows.items, statement.columnNames.length = row.values.length := by
    intro row listed
    have same := not_not.mp (fits row listed)
    rw [columnNames, WrittenRow.values, List.length_map, List.length_map, same]
  have rows : statement.plan.rows.map (Client.rowDocument statement.plan.columns) =
      statement.rows.items.map fun row => Client.rowDocument statement.columnNames row.values := by
    rw [plan, List.map_map]
    rfl
  -- all rows have the same columns, so all of them bring an identifier or none does
  have alike : ∀ doc ∈ statement.rows.items.map fun row =>
      Client.rowDocument statement.columnNames row.values,
        doc.id?.isSome = decide (idField ∈ statement.columnNames) := by
    intro doc member
    obtain ⟨row, listed, rfl⟩ := List.mem_map.mp member
    exact Client.id?_rowDocument different (lengths row listed)
  rw [rows]
  constructor
  · rw [Memory.length_assignIds, List.length_map]
  · intro place row doc listed found
    rw [Memory.getElem?_assignIds alike, List.getElem?_map, listed] at found
    simp only [Option.map_some, Option.some.injEq] at found
    rw [← found]
    exact Client.isRow_rowDocument different (lengths row (List.mem_of_getElem? listed)) _

/-- The column of the documents has the values of the rows in its place. -/
theorem AreRows.groupValue {fresh : Nat → ObjectId} {docs : List Document}
    (areRows : statement.AreRows fresh docs)
    (fits : ∀ row ∈ statement.rows.items, ¬ statement.IsRagged row) {place : Nat}
    {column : WrittenName} (listed : statement.columns.items[place]? = some column) :
    (docs.map (·.groupValue column.name)).map some =
      statement.rows.items.map (·.value? place) := by
  have names : statement.columnNames[place]? = some column.name := by
    rw [columnNames, List.getElem?_map, listed]
    rfl
  refine List.ext_getElem? fun number => ?_
  rw [List.getElem?_map, List.getElem?_map, List.getElem?_map]
  cases found : statement.rows.items[number]? with
  | none =>
    have behind : docs[number]? = none := by
      rw [List.getElem?_eq_none_iff, areRows.length]
      exact List.getElem?_eq_none_iff.mp found
    rw [behind]
    rfl
  | some row =>
    obtain ⟨doc, here⟩ : ∃ doc, docs[number]? = some doc := by
      have inside := (List.getElem?_eq_some_iff.mp found).1
      exact ⟨_, List.getElem?_eq_getElem (areRows.length ▸ inside)⟩
    have isRow := areRows.each number row doc found here
    -- a row that fits has a value in each place
    obtain ⟨literal, valued⟩ : ∃ literal, row.values[place]? = some literal := by
      have inside := (List.getElem?_eq_some_iff.mp listed).1
      have same := not_not.mp (fits row (List.mem_of_getElem? found))
      refine ⟨_, List.getElem?_eq_getElem ?_⟩
      rwa [WrittenRow.values, List.length_map, same]
    have member : (column.name, literal.toValue) ∈
        statement.columnNames.zip (row.values.map Literal.toValue) := by
      refine List.mem_of_getElem? (i := place) ?_
      rw [List.getElem?_zip_eq_some]
      exact ⟨names, by rw [List.getElem?_map, valued]; rfl⟩
    have value : doc.groupValue column.name = literal.toValue := by
      rw [Document.groupValue, Document.getPath?_eq_get? column.isName.pointless,
        isRow.values _ member]
      rfl
    have given : row.value? place = some literal.toValue := by
      rw [WrittenRow.value?, valued]
      rfl
    rw [here, Option.map_some, Option.map_some, Option.map_some, value, given]

end Write.InsertStatement

/-! ## In every session -/

theorem Write.InsertStatement.extractInsert_eq {statement : InsertStatement}
    (fits : ∀ row ∈ statement.rows.items, ¬ statement.IsRagged row) :
    extractInsert (cleanStatement (String.ofList statement.text)) = .ok statement.plan := by
  have cleaned : clean (cleanStatement (String.ofList statement.text)).toList = statement.text := by
    have tidy := statement.isTidy_text.cleaned
    rw [cleanStatement, String.toList_ofList, String.toList_ofList, tidy, tidy]
  have noneRagged : statement.rows.items.find? (statement.IsRagged ·) = none := by
    rw [List.find?_eq_none]
    exact fun row listed => by simpa using fits row listed
  rw [statement.extract_eq cleaned, noneRagged]

/-- What an accepted INSERT answers and leaves. -/
theorem insert_rows {statement : InsertStatement} {s : Session Memory} (ids : IdSupply)
    (faithful : s.Faithful) (allowed : settings.isAllowed statement.table.name = true)
    (different : statement.columnNames.Nodup)
    (fits : ∀ row ∈ statement.rows.items, ¬ statement.IsRagged row)
    (accepted : checkStatement settings.forbidCastSort (String.ofList statement.text) = .ok ()) :
    ∃ docs after, Client.insert ⟨settings, Memory.store ids⟩ (String.ofList statement.text) s =
        (.ok statement.rows.items.length, after) ∧ after.Faithful ∧
      after.store.documents statement.table.name =
        s.store.documents statement.table.name ++ docs ∧
      statement.AreRows (fun place => ids (s.store.issued + place)) docs ∧
      ∀ other, other ≠ statement.table.name →
        Named.get? other after.store.collections = Named.get? other s.store.collections := by
  -- literals do not nest, so no document is refused
  have valid : ∀ doc ∈ statement.plan.rows.map (Client.rowDocument statement.plan.columns),
      doc.validate = .ok () := by
    intro doc member
    obtain ⟨row, -, rfl⟩ := List.mem_map.mp member
    exact Client.validate_rowDocument _ row
  obtain ⟨stored, kept, appended, others⟩ :=
    Memory.insertMany_of_valid ids statement.table.name s.store valid
  have ran : (Direct.insert ⟨settings, Memory.store ids⟩ (String.ofList statement.text)).run s.store =
      _ := Direct.run_insert accepted (InsertStatement.extractInsert_eq fits) allowed kept
  obtain ⟨after, answered, rfl, faithfulToo⟩ :=
    (Client.agrees_insert fun _ => rfl).exists_after faithful ran
  rw [List.length_map, InsertStatement.plan, List.length_map] at answered
  exact ⟨_, after, answered, faithfulToo, appended,
    InsertStatement.areRows_assignIds different fits ids _, others⟩

/-- The list of a column, as far as its SELECT is read as a whole. -/
theorem valueList_column {s : Session Memory} (faithful : s.Faithful) (isColumn : IsName column)
    (isTable : IsName table) (allowed : settings.isAllowed table = true)
    (free : IsFreeColumn column)
    (short : (columnStatement column table).length ≤ Select.maxLength)
    (accepted : checkStatement settings.forbidCastSort (columnStatement column table) = .ok ()) :
    (Client.valueList ⟨settings, Memory.store ids⟩ (columnStatement column table) [] s).1 =
      .ok ((s.store.documents table).map (·.groupValue column)) :=
  (Client.agrees_valueList fun _ => rfl).answer_eq faithful
    (Direct.run_valueList_all accepted (extractSelect_of_short isColumn isTable free short)
      allowed isColumn)

/-- In every session that a client of a store in memory can reach: an accepted INSERT of rows that
fit its different columns answers the number of its rows. It appends the documents of its rows, in
order, to its table, and no other collection changes. The list of a column that is no keyword and
whose SELECT is short enough to be read is longer by the values of the rows. -/
theorem inserted_rows_are_appended {statement : InsertStatement} {s : Session Memory}
    (reached : ∃ operations start,
      Operation.runAll ⟨settings, Memory.store ids⟩ operations (Session.start start) = s)
    (allowed : settings.isAllowed statement.table.name = true)
    (different : statement.columnNames.Nodup)
    (fits : ∀ row ∈ statement.rows.items, ¬ statement.IsRagged row)
    (accepted : checkStatement settings.forbidCastSort (String.ofList statement.text) = .ok ()) :
    ∃ docs after, Client.insert ⟨settings, Memory.store ids⟩ (String.ofList statement.text) s =
        (.ok statement.rows.items.length, after) ∧
      after.store.documents statement.table.name =
        s.store.documents statement.table.name ++ docs ∧
      statement.AreRows (fun place => ids (s.store.issued + place)) docs ∧
      (∀ other, other ≠ statement.table.name →
        Named.get? other after.store.collections = Named.get? other s.store.collections) ∧
      ∀ place column, statement.columns.items[place]? = some column → IsFreeColumn column.name →
        (columnStatement column.name statement.table.name).length ≤ Select.maxLength →
        ∃ previous added,
          (Client.valueList ⟨settings, Memory.store ids⟩
            (columnStatement column.name statement.table.name) [] s).1 = .ok previous ∧
          (Client.valueList ⟨settings, Memory.store ids⟩
            (columnStatement column.name statement.table.name) [] after).1 =
              .ok (previous ++ added) ∧
          added.map some = statement.rows.items.map (·.value? place) := by
  obtain ⟨operations, start, rfl⟩ := reached
  have faithful := Operation.runAll_faithful ⟨settings, Memory.store ids⟩ operations start
  obtain ⟨docs, after, answered, faithfulToo, appended, areRows, others⟩ :=
    insert_rows ids faithful allowed different fits accepted
  refine ⟨docs, after, answered, appended, areRows, others, ?_⟩
  intro place column listed free short
  have acceptedToo : checkStatement settings.forbidCastSort
      (columnStatement column.name statement.table.name) = .ok () := by
    rw [checkStatement_eq_ok_iff] at accepted ⊢
    rw [String.toList_ofList] at accepted
    exact accepted_of_insert statement column (List.mem_of_getElem? listed) accepted
  refine ⟨_, docs.map (·.groupValue column.name),
    valueList_column faithful column.isName statement.table.isName allowed free short acceptedToo,
    ?_, areRows.groupValue fits listed⟩
  rw [valueList_column faithfulToo column.isName statement.table.isName allowed free short
    acceptedToo, appended, List.map_append]

theorem isName_a : IsName "a" := by decide

theorem isFreeColumn_a : IsFreeColumn "a" := by
  simp [IsFreeColumn, Select.clauseStarts, Spells, spells]

theorem spelled_into : "INTO".toList.map Char.toUpper = "INTO".toList := by decide

/-- A statement in the usual form. -/
def Write.plainInsert (table : WrittenName) (columns : CommaList WrittenName)
    (rows : CommaList WrittenRow) : InsertStatement where
  insert := ⟨"INSERT".toList, by decide⟩
  into := ⟨"INTO".toList, spelled_into⟩
  table := table
  beforeColumns := .closed
  beforeFirst := .closed
  columns := columns
  afterLast := .closed
  beforeValues := .space
  values := ⟨"VALUES".toList, by decide⟩
  beforeRows := .space
  rows := rows

/-- Two rows with an integer, a text and nothing. -/
def Write.mixedRows : InsertStatement :=
  plainInsert ⟨"table1", by decide⟩
    (.cons ⟨"a", isName_a⟩ .closed .space (.last ⟨"label", by decide⟩))
    (.cons
      ⟨.closed, .cons (.int ⟨true, "12".toList, by decide, by decide, by decide⟩) .closed .space
        (.last (.string ⟨"x y", by decide, by decide, by decide⟩ (by decide))), .closed⟩
      .closed .space
      (.last ⟨.closed, .cons .null .closed .space (.last (.bool true)), .closed⟩))

/-- Inserting them into an empty store, and the list of their first column. -/
theorem inserted_rows_are_appended_mixed :
    let client : Client Memory := ⟨.standard "localhost" "test", Memory.store fun _ => .nil⟩
    mixedRows.text = "INSERT INTO table1(a, label) VALUES (-12, 'x y'), (null, true)".toList ∧
      mixedRows.columnNames.Nodup ∧ (∀ row ∈ mixedRows.rows.items, ¬ mixedRows.IsRagged row) ∧
      checkStatement client.settings.forbidCastSort (String.ofList mixedRows.text) = .ok () ∧
      ∃ after, client.insert (String.ofList mixedRows.text) (.start .empty) = (.ok 2, after) ∧
        (client.valueList (columnStatement "a" "table1") [] after).1 =
          .ok [.int64 (-12), .null] := by
  intro client
  have different : mixedRows.columnNames.Nodup := by decide
  have fits : ∀ row ∈ mixedRows.rows.items, ¬ mixedRows.IsRagged row := by decide
  have accepted : checkStatement client.settings.forbidCastSort (String.ofList mixedRows.text) =
      .ok () := by decide +kernel
  refine ⟨rfl, different, fits, accepted, ?_⟩
  have reached : ∃ operations start,
      Operation.runAll client operations (Session.start start) = .start .empty :=
    ⟨[], .empty, rfl⟩
  obtain ⟨docs, after, answered, -, -, -, lists⟩ :=
    inserted_rows_are_appended reached (by decide) different fits accepted
  obtain ⟨previous, added, before, behind, values⟩ :=
    lists 0 ⟨"a", isName_a⟩ rfl isFreeColumn_a (by decide)
  -- the store is empty at first, so the values of the rows are all there are
  have nothing : (client.valueList (columnStatement "a" "table1") [] (.start .empty)).1 = .ok [] :=
    valueList_column (Session.faithful_start _) isName_a (by decide) (by decide) isFreeColumn_a
      (by decide) (by decide +kernel)
  obtain rfl : [] = previous := Except.ok.inj (nothing.symm.trans before)
  have read : added.map some = [Value.int64 (-12), .null].map some := values
  refine ⟨after, answered, behind.trans ?_⟩
  rw [List.map_injective_iff.mpr (fun _ _ => Option.some.inj) read]
  rfl

/-! ## Names that are cut -/

/-- One row with a number. -/
def Write.numberInsert (table : WrittenName) : InsertStatement :=
  plainInsert table (.last ⟨"a", isName_a⟩)
    (.last ⟨.closed, .last (.int ⟨false, ['1'], by decide, by decide, by decide⟩), .closed⟩)

theorem Write.text_numberInsert (table : WrittenName) : (numberInsert table).text =
    "INSERT".toList ++ ' ' :: ("INTO".toList ++ ' ' :: (table.text ++ '(' ::
      "a) VALUES (1)".toList)) := rfl

/-- All words that the check looks for. -/
def checkedWords : List String := "ORDER" :: (refusedWords ++ Safety.functionNames)

theorem lacks_numberInsert : ∀ word ∈ checkedWords, IsKeyword word ∧ Lacks word "INSERT".toList ∧
    Lacks word "INTO".toList ∧ Lacks word "a) VALUES (1)".toList := by decide

/-- The statement is accepted if the name of the table is none of the words. -/
theorem accepted_numberInsert {forbid : Bool} {table : WrittenName}
    (other : ∀ word ∈ checkedWords, ¬ Spells word.toList table.text) :
    Accepted forbid (numberInsert table).text := by
  -- the table is the only part of the statement that is not fixed
  have lacks : ∀ word ∈ checkedWords, Lacks word (numberInsert table).text := by
    intro word listed
    obtain ⟨isKeyword, noInsert, noInto, noValues⟩ := lacks_numberInsert word listed
    rw [text_numberInsert, lacks_append_cons isKeyword rfl, lacks_append_cons isKeyword rfl,
      lacks_append_cons isKeyword rfl]
    exact ⟨noInsert, noInto, lacks_word table.isName.members (other word listed), noValues⟩
  have members : ∀ c ∈ (numberInsert table).text, Safety.isForbidden c = false ∧ c ≠ '\'' := by
    have inTable (c : Char) (member : c ∈ table.text) :
        Safety.isForbidden c = false ∧ c ≠ '\'' := by
      have inWord := table.isName.members c member
      refine ⟨isForbidden_of_isWordChar inWord, ?_⟩
      rintro rfl
      cases inWord
    have others : (∀ c ∈ "INSERT".toList, Safety.isForbidden c = false ∧ c ≠ '\'') ∧
        (∀ c ∈ "INTO".toList, Safety.isForbidden c = false ∧ c ≠ '\'') ∧
        (∀ c ∈ "a) VALUES (1)".toList, Safety.isForbidden c = false ∧ c ≠ '\'') ∧
        (∀ c ∈ [' ', '('], Safety.isForbidden c = false ∧ c ≠ '\'') := by decide
    obtain ⟨inInsert, inInto, inValues, inGaps⟩ := others
    rw [text_numberInsert]
    simp only [List.forall_mem_append, List.forall_mem_cons]
    exact ⟨inInsert, inGaps ' ' (by decide), inInto, inGaps ' ' (by decide), inTable,
      inGaps '(' (by decide), inValues⟩
  have tidy := (numberInsert table).isTidy_text
  have needsOrder : NeedsWord "ORDER" Safety.orderBy? := (needs_keyword "ORDER" _).needsWord
  have noOrder : Safety.occurs Safety.orderBy? (numberInsert table).text = false := by
    rw [Safety.occurs, searchWord?_eq_none needsOrder (lacks _ (by decide))]
    rfl
  constructor
  · rw [tidy.trimmed]
    exact tidy.ne_nil
  · exact fun c member => (members c member).1
  · exact fun word refused => lacks word (by simp [checkedWords, refused])
  · rw [noOrder, Bool.and_false]
  · exact occurs_eq_false innerPattern?_absent fun member => (members _ member).2 rfl
  · rw [countFunctions_eq_zero fun name listed => lacks name (by simp [checkedWords, listed])]
    exact Nat.zero_le 1

/-- An INSERT into a table whose name is not read to its end succeeds. The list of its column is
refused, unless there is an allowed table with the beginning of the name. -/
theorem valueList_after_numberInsert {table : WrittenName} {cut : String} {s : Session Memory}
    (faithful : s.Faithful) (other : ∀ word ∈ checkedWords, ¬ Spells word.toList table.text)
    (cutTo : readName "a" table.name = cut) (allowed : settings.isAllowed table.name = true)
    (refused : settings.isAllowed cut = false) :
    (numberInsert table).columnNames.Nodup ∧
      (∀ row ∈ (numberInsert table).rows.items, ¬ (numberInsert table).IsRagged row) ∧
      IsFreeColumn "a" ∧ checkStatement settings.forbidCastSort
        (String.ofList (numberInsert table).text) = .ok () ∧
      ∃ after, Client.insert ⟨settings, Memory.store ids⟩ (String.ofList (numberInsert table).text)
          s = (.ok 1, after) ∧
        (Client.valueList ⟨settings, Memory.store ids⟩ (columnStatement "a" table.name) []
          after).1 = .error (.tableNotAllowed cut) := by
  have different : (numberInsert table).columnNames.Nodup := List.nodup_singleton "a"
  have fits : ∀ row ∈ (numberInsert table).rows.items, ¬ (numberInsert table).IsRagged row := by
    intro row listed ragged
    rw [List.mem_singleton.mp listed] at ragged
    exact ragged rfl
  have isAccepted : Accepted settings.forbidCastSort (numberInsert table).text :=
    accepted_numberInsert other
  have accepted : checkStatement settings.forbidCastSort
      (String.ofList (numberInsert table).text) = .ok () := by
    rwa [checkStatement_eq_ok_iff, String.toList_ofList]
  have acceptedToo : checkStatement settings.forbidCastSort (columnStatement "a" table.name) =
      .ok () :=
    checkStatement_eq_ok_iff.mpr (accepted_of_insert (numberInsert table) ⟨"a", isName_a⟩
      (List.mem_singleton.mpr rfl) isAccepted)
  have room : "a".length + 13 < Select.maxLength := by
    have length : "a".length = 1 := rfl
    rw [length, Select.maxLength]
    omega
  have read := extractSelect_columnStatement isName_a table.isName isFreeColumn_a room
  rw [cutTo] at read
  obtain ⟨docs, after, answered, faithfulToo, -⟩ :=
    insert_rows ids faithful allowed different fits accepted
  exact ⟨different, fits, isFreeColumn_a, accepted, after, answered,
    (Client.agrees_valueList fun _ => rfl).answer_eq faithfulToo
      (Direct.run_valueList_refused acceptedToo read refused)⟩

/-- A letter, once and then as often as told. -/
def repeatedName (n : Nat) : WrittenName where
  name := String.ofList (List.replicate (n + 1) 'a')
  isName := by
    constructor
    · simp
    · intro c member
      rw [String.toList_ofList] at member
      rw [List.eq_of_mem_replicate member]
      rfl

section repeatedName

variable {n : Nat}

theorem text_repeatedName (n : Nat) : (repeatedName n).text = List.replicate (n + 1) 'a' := by
  rw [WrittenName.text, repeatedName, String.toList_ofList]

theorem not_spells_repeatedName (long : 4986 ≤ n) :
    ∀ word ∈ checkedWords, ¬ Spells word.toList (repeatedName n).text := by
  have short : ∀ word ∈ checkedWords, word.toList.length < 20 := by decide
  intro word listed spelled
  have length := spelled.length_eq
  have bound := short word listed
  rw [text_repeatedName, List.length_replicate] at length
  omega

theorem readName_repeatedName (long : 4986 ≤ n) :
    readName "a" (repeatedName n).name = (repeatedName 4985).name := by
  have room : Select.maxLength - ("a".length + 13) = 4985 + 1 := rfl
  have cut := List.take_replicate (i := 4985 + 1) (n := n + 1) (a := 'a')
  rw [Nat.min_eq_left (by omega)] at cut
  rw [readName, room, repeatedName, String.toList_ofList, cut]
  rfl

theorem isAllowed_repeatedName {settings : Settings}
    (only : settings.allowedTables = some [(repeatedName n).name]) (m : Nat) :
    settings.isAllowed (repeatedName m).name = decide (n = m) := by
  have letters (k : Nat) : (repeatedName k).name.toList.map Char.toLower =
      List.replicate (k + 1) 'a' := by
    have text : (repeatedName k).name.toList = List.replicate (k + 1) 'a' := text_repeatedName k
    rw [text, List.map_replicate]
    rfl
  have same : List.replicate (n + 1) 'a' = List.replicate (m + 1) 'a' ↔ n = m := by
    simp [List.replicate_inj]
  simp [Settings.isAllowed, only, eqIgnoreCase, letters, beq_eq_decide, same]

end repeatedName

/-- A table with a name of 5000 letters. An INSERT into it succeeds, and the list of its column is
refused, although the table is allowed and all its names are fine. -/
theorem longName_is_cut :
    let settings : Settings :=
      { Settings.standard "localhost" "test" with allowedTables := some [(repeatedName 4999).name] }
    let client : Client Memory := ⟨settings, Memory.store fun _ => .nil⟩
    let statement := numberInsert (repeatedName 4999)
    settings.isAllowed (repeatedName 4999).name = true ∧ statement.columnNames.Nodup ∧
      (∀ row ∈ statement.rows.items, ¬ statement.IsRagged row) ∧ IsFreeColumn "a" ∧
      checkStatement settings.forbidCastSort (String.ofList statement.text) = .ok () ∧
      ∃ after, client.insert (String.ofList statement.text) (.start .empty) = (.ok 1, after) ∧
        (client.valueList (columnStatement "a" (repeatedName 4999).name) [] after).1 =
          .error (.tableNotAllowed (repeatedName 4985).name) := by
  intro settings client statement
  have allowed (n : Nat) : settings.isAllowed (repeatedName n).name = decide (4999 = n) :=
    isAllowed_repeatedName rfl n
  have long : 4986 ≤ 4999 := by omega
  refine ⟨(allowed 4999).trans rfl, valueList_after_numberInsert (Session.faithful_start _)
    (not_spells_repeatedName long) (readName_repeatedName long) ((allowed 4999).trans rfl)
    ((allowed 4985).trans rfl)⟩

end DocQuery

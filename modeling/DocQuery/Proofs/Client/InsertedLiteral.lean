import DocQuery.Proofs.Client.FoundRows
import DocQuery.Proofs.Statement.Acceptance
import DocQuery.Proofs.Statement.EqualsText
import DocQuery.Proofs.Store.FoundDocument
import DocQuery.Proofs.Store.InsertedRows
import DocQuery.Proofs.Text.Names

/-! # An inserted literal is found by the same literal

A literal is read by one reader in the rows of an INSERT and by another one in a condition. Where
the two agree on it, a SELECT that asks for the literal gives the document that was inserted. What is
stored of a text in quotation marks has one space for each run of its blanks, since a statement is
cleaned as a whole before it is read. Commas, brackets and all other characters are left alone.

* `FindsLiteral` — the columns and literals on which the two readers agree.
* `extractInsert_insertStatement`, `FindsLiteral.whereFilter_eq` — what is read from the statements.
* `inserted_literal_is_found` — the document is among those of the result.
* `quotedText` — the text in quotation marks.
* `inserted_text_is_squeezed` — what is stored, and which texts are stored as they are.
-/

namespace DocQuery

open DocQuery.Text Condition

/-! ## The statements -/

def insertStatement (table column literal : String) : String :=
  "INSERT INTO " ++ table ++ "(" ++ column ++ ") VALUES (" ++ literal ++ ")"

def equalsStatement (table column literal : String) : String :=
  "SELECT * FROM " ++ table ++ " WHERE " ++ column ++ " = " ++ literal

theorem toList_insertStatement (table column literal : String) :
    (insertStatement table column literal).toList =
      Write.insertText table.toList column.toList literal.toList := by
  have front : "INSERT INTO ".toList = "INSERT".toList ++ ' ' :: ("INTO".toList ++ [' ']) := rfl
  have middle : ") VALUES (".toList = ')' :: ' ' :: ("VALUES".toList ++ [' ', '(']) := rfl
  have brackets : "(".toList = ['('] ∧ ")".toList = [')'] := ⟨rfl, rfl⟩
  unfold insertStatement
  simp only [String.toList_append, front, middle, brackets,
    Write.insertText_eq, List.append_assoc, List.cons_append, List.nil_append]

theorem toList_equalsStatement (table column literal : String) :
    (equalsStatement table column literal).toList =
      Select.equalsText table.toList column.toList literal.toList := by
  have front : "SELECT * FROM ".toList =
      "SELECT".toList ++ ' ' :: (['*'] ++ ' ' :: ("FROM".toList ++ [' '])) := rfl
  have middle : " WHERE ".toList = ' ' :: ("WHERE".toList ++ [' ']) := rfl
  have sign : " = ".toList = [' ', '=', ' '] := rfl
  unfold equalsStatement Select.equalsText
  simp only [String.toList_append, front, middle, sign, Select.conditionText_eq,
    pathComparison, List.append_assoc, List.cons_append, List.nil_append]

/-- The text of a literal as it stands in a cleaned statement. -/
def cleanLiteral (literal : String) : List Char := clean literal.toList

/-! ## Reading the INSERT -/

section

variable {table column literal : String}

theorem IsName.isTable (named : IsName table) : Select.IsTable table.toList [] where
  nonempty := named.nonempty
  members := named.members
  ends := rfl

theorem clean_insertStatement (named : IsName table) (isColumn : IsWord column.toList)
    (first : literal.toList.head?.all (!isBlank ·) = true) (ends : EndsSolid literal.toList) :
    clean (cleanStatement (insertStatement table column literal)).toList =
      Write.insertText table.toList column.toList (cleanLiteral literal) := by
  rw [cleanStatement, String.toList_ofList, clean, words_clean, ← clean, toList_insertStatement,
    cleanLiteral]
  generalize literal.toList = s at first ends
  cases s with
  | nil => cases ends
  | cons c s =>
    exact Write.clean_insertText named.isTable isColumn (by simpa using first) ends.all

/-- The plan of the INSERT, whose column cuts neither the list of columns nor a name. -/
theorem extractInsert_insertStatement (named : IsName table) (isColumn : IsWord column.toList)
    (plain : ∀ c ∈ column.toList, isPlain c = true)
    (first : literal.toList.head?.all (!isBlank ·) = true) (ends : EndsSolid literal.toList)
    (value : IsValueText (cleanLiteral literal)) :
    extractInsert (cleanStatement (insertStatement table column literal)) =
      .ok ⟨table, [column], [[Literal.parse (String.ofList (cleanLiteral literal))]]⟩ := by
  have noBracket : ')' ∉ column.toList := fun member => by cases plain _ member
  have noComma : ',' ∉ column.toList := fun member => by cases plain _ member
  have read := Write.extractInsert_insertText named.isTable isColumn noBracket noComma
    (clean_insertStatement named isColumn first ends) value.fillsRow value.oneItem value.trimmed
    value.oneLine
  simpa only [String.ofList_toList] using read

theorem isValueText_literal (written : IsLiteral literal.toList)
    (noBackslash : '\\' ∉ literal.toList) : IsValueText (cleanLiteral literal) := by
  rcases written.clean_cases noBackslash with bare | ⟨mark, inner, quoted, same⟩
  · exact bare.toIsValueText
  · rw [cleanLiteral, same]
    exact quoted.isValueText

theorem extractInsert_literal (named : IsName table)
    (path : path? column.toList = some (column.toList, [])) (written : IsLiteral literal.toList)
    (noBackslash : '\\' ∉ literal.toList) :
    extractInsert (cleanStatement (insertStatement table column literal)) =
      .ok ⟨table, [column], [[Literal.parse (String.ofList (cleanLiteral literal))]]⟩ :=
  extractInsert_insertStatement named (isWord_of_path? path)
    (fun c member => (plain_of_path? path c member).1) written.ends.1 written.ends.2
    (isValueText_literal written noBackslash)

end

/-! ## Literals that are found -/

/-- A literal that the two statements take alike. It is compared with a field, or it is null, and
the SELECT is not too long to be read. A text in quotes is not empty and is neither an identifier
nor an internet timestamp, and no part of it is taken for a clause. -/
structure FindsLiteral (table column literal : String) : Prop where
  named : IsName table
  notWhere : ¬ Spells "WHERE".toList table.toList
  path : path? column.toList = some (column.toList, [])
  written : IsLiteral literal.toList
  direct : '.' ∉ column.toList ∨ eqIgnoreCase literal "null" = true
  short : (cleanStatement (equalsStatement table column literal)).length ≤ Select.maxLength
  quoted : ∀ inner, unquote? (cleanLiteral literal) = some inner →
    inner ≠ [] ∧ ObjectId.parse? (String.ofList inner) = none ∧
      (∀ t, Time.Instant.parseInternet (String.ofList inner) ≠ .ok t) ∧
      ∀ plan, extractSelect (cleanStatement (equalsStatement table column literal)) = .ok plan →
        plan.exists_ = none ∧ plan.groupBy = none

namespace FindsLiteral

variable {table column literal : String}

theorem isColumn (finds : FindsLiteral table column literal) : IsWord column.toList :=
  isWord_of_path? finds.path

/-! ## INSERT -/

/-- The plan of the INSERT. -/
theorem extractInsert_eq (finds : FindsLiteral table column literal)
    (noBackslash : '\\' ∉ literal.toList) :
    extractInsert (cleanStatement (insertStatement table column literal)) =
      .ok ⟨table, [column], [[Literal.parse (String.ofList (cleanLiteral literal))]]⟩ :=
  extractInsert_literal finds.named finds.path finds.written noBackslash

/-! ## SELECT -/

theorem clean_equals (finds : FindsLiteral table column literal) :
    (cleanStatement (equalsStatement table column literal)).toList =
      Select.equalsText table.toList column.toList (cleanLiteral literal) := by
  have ends := finds.written.ends
  have some_ : words literal.toList ≠ [] := by
    generalize literal.toList = s at ends
    cases s with
    | nil => cases ends.2
    | cons c s => exact words_cons_ne_nil (by simpa using ends.1) s
  rw [cleanStatement, String.toList_ofList, toList_equalsStatement,
    Select.clean_equalsText finds.named.isTable finds.isColumn some_, cleanLiteral]

/-- The filter of the SELECT, if it is read and its condition compiles. -/
theorem whereFilter_eq (finds : FindsLiteral table column literal)
    (noBackslash : '\\' ∉ literal.toList) {plan : SelectPlan} {filter : Filter}
    (read : extractSelect (cleanStatement (equalsStatement table column literal)) = .ok plan)
    (filtered : plan.whereFilter [] = .ok filter) :
    ∃ predicate orderBy, plan = Select.planOf table predicate orderBy ∧
      filter = .compare .eq column
        (Literal.parse (String.ofList (cleanLiteral literal))).toValue := by
  have text := finds.clean_equals
  have cleaned : clean (cleanStatement (equalsStatement table column literal)).toList =
      Select.equalsText table.toList column.toList (cleanLiteral literal) := by
    rw [← text, cleanStatement, String.toList_ofList, clean, words_clean, ← clean]
  have short := finds.short
  rw [← String.length_toList, text] at short
  rw [← String.ofList_toList (s := table), ← String.ofList_toList (s := column)]
  rcases finds.written.clean_cases noBackslash with bare | ⟨mark, inner, quoted, same⟩
  · exact Select.filter_of_bare finds.named.isTable finds.notWhere finds.path bare cleaned short read
      filtered
  · rw [← cleanLiteral] at same
    obtain ⟨nonempty, noId, noInstant, noClauses⟩ :=
      finds.quoted inner (same ▸ unquote?_quoted quoted.isMark inner)
    obtain ⟨noExists, noGroups⟩ := noClauses plan read
    rw [same] at cleaned short ⊢
    exact Select.filter_of_quoted finds.named.isTable finds.notWhere finds.path quoted nonempty noId
      noInstant cleaned short read noExists noGroups filtered

end FindsLiteral

/-! ## The inserted document -/

/-- A statement that is accepted has no forbidden character. -/
theorem isForbidden_of_checkStatement {forbid : Bool} {sql : String}
    (checked : checkStatement forbid sql = .ok ()) :
    ∀ c ∈ sql.toList, Safety.isForbidden c = false := by
  simp only [checkStatement] at checked
  split at checked
  · cases checked
  · split at checked
    · cases checked
    · rename_i noneFound
      simpa using noneFound

variable {settings : Settings} {ids : IdSupply} {table column literal : String}
  {m after : Memory}

theorem notMem_backslash_of_accepted {forbid : Bool}
    (accepted : checkStatement forbid (insertStatement table column literal) = .ok ()) :
    '\\' ∉ literal.toList := by
  intro member
  have fits := isForbidden_of_checkStatement accepted '\\'
    (by rw [toList_insertStatement]; simp [Write.insertText_eq, member])
  cases fits

namespace Direct

/-- An INSERT of one value appends one document with it. -/
theorem insert_single {sql : String} {literal : Literal} {n : Nat}
    (read : extractInsert (cleanStatement sql) = .ok ⟨table, [column], [[literal]]⟩)
    (ran : (Direct.insert ⟨settings, Memory.store ids⟩ sql).run m = (.ok n, after)) :
    after.documents table = m.documents table ++
      [(Document.ofLiteral column literal).ensureId (ids m.issued)] := by
  obtain ⟨-, plan, planned, inserted⟩ := insert_eq_ok ran
  cases read.symm.trans planned
  rw [Memory.store_insertMany, List.map_singleton, Client.rowDocument_single] at inserted
  exact Memory.insertMany_single inserted

/-- A literal that is inserted holds no backslash. -/
theorem notMem_backslash {n : Nat} (ran : (Direct.insert ⟨settings, Memory.store ids⟩
    (insertStatement table column literal)).run m = (.ok n, after)) : '\\' ∉ literal.toList :=
  notMem_backslash_of_accepted (insert_eq_ok ran).1

/-- A SELECT of a literal gives each document with the literal. -/
theorem select_literal (finds : FindsLiteral table column literal)
    (noBackslash : '\\' ∉ literal.toList) {rows : ResultTable}
    (ran : (Direct.select ⟨settings, Memory.store ids⟩ (equalsStatement table column literal)
      []).run m = (.ok rows, after)) {doc : Document} (member : doc ∈ m.documents table)
    (equal : fieldEquals (doc.getPath? column)
      (Literal.parse (String.ofList (cleanLiteral literal))).toValue = true) :
    ∃ docs, doc ∈ docs ∧ rows = .ofDocuments docs := by
  obtain ⟨plan, values, middle, query, docs, read, found, planned, asked, rfl⟩ := select_eq_ok ran
  obtain ⟨filter, filtered⟩ := Select.whereFilter_of_planSelect planned
  obtain ⟨predicate, orderBy, rfl, rfl⟩ := finds.whereFilter_eq noBackslash read filtered
  obtain ⟨sort, rfl⟩ := Select.planSelect_planOf filtered planned
  -- without an EXISTS clause the store is only asked for the documents
  cases found
  have answered := DirectCall.run_ask_eq_ok asked
  rw [Memory.store_find, Prod.mk.injEq] at answered
  exact ⟨docs, FindQuery.mem_run (Memory.ofQuery_eq_ok answered.1) member
    (congrArg Except.ok equal), rfl⟩

end Direct

/-- In every session that a client of a store in memory can reach: if an INSERT of a literal
succeeds and a SELECT that asks for the literal is accepted right after it, then the INSERT has
appended one document to the table, and that document is among those of the result. -/
theorem inserted_literal_is_found {s inserted selected : Session Memory} {n : Nat}
    {rows : ResultTable}
    (reached : ∃ operations start,
      Operation.runAll ⟨settings, Memory.store ids⟩ operations (Session.start start) = s)
    (finds : FindsLiteral table column literal)
    (insertion : Client.insert ⟨settings, Memory.store ids⟩
      (insertStatement table column literal) s = (.ok n, inserted))
    (selection : Client.select ⟨settings, Memory.store ids⟩
      (equalsStatement table column literal) [] inserted = (.ok rows, selected)) :
    ∃ doc docs, inserted.store.documents table = s.store.documents table ++ [doc] ∧
      rows = .ofDocuments docs ∧ doc ∈ docs := by
  obtain ⟨operations, start, rfl⟩ := reached
  have faithful := Operation.runAll_faithful ⟨settings, Memory.store ids⟩ operations start
  obtain ⟨inserts, kept⟩ := (Client.agrees_insert (fun _ => rfl)).run_eq faithful insertion
  obtain ⟨selects, -⟩ := (Client.agrees_select (fun _ => rfl)).run_eq kept selection
  have noBackslash := Direct.notMem_backslash inserts
  have appended := Direct.insert_single (finds.extractInsert_eq noBackslash) inserts
  have direct : '.' ∉ column.toList ∨
      Literal.parse (String.ofList (cleanLiteral literal)) = .null := by
    refine finds.direct.imp_right fun null => ?_
    rw [← String.ofList_toList (s := literal)] at null
    exact Literal.parse_null null
  obtain ⟨docs, member, rfl⟩ := Direct.select_literal finds noBackslash selects
    (appended ▸ List.mem_append_right _ List.mem_cons_self) (Document.fieldEquals_inserted direct)
  exact ⟨_, docs, appended, rfl, member⟩

/-! ## In an empty store -/

/-- What the two statements answer, one after the other, in a client of an empty store. -/
def Client.insertThenSelect (column literal : String) :
    Except SqlError Nat × Except SqlError ResultTable :=
  let client : Client Memory := ⟨.standard "localhost" "test", Memory.store fun _ => .nil⟩
  let inserted := client.insert (insertStatement "table1" column literal) (.start .empty)
  (inserted.1, (client.select (equalsStatement "table1" column literal) [] inserted.2).1)

/-- Where both statements are accepted and read, the INSERT succeeds, and the condition of the SELECT
is tried on the new document and those that were there. -/
theorem Client.select_after_insert {plan : SelectPlan} {predicate : String}
    (isPlan : plan = Select.planOf table (some predicate) none) (named : IsName table)
    (path : path? column.toList = some (column.toList, [])) (written : IsLiteral literal.toList)
    (allowed : settings.isAllowed table = true)
    (inserts : checkStatement settings.forbidCastSort (insertStatement table column literal) = .ok ())
    (selects : checkStatement settings.forbidCastSort (equalsStatement table column literal) = .ok ())
    (read : extractSelect (cleanStatement (equalsStatement table column literal)) = .ok plan) :
    ∃ s, Client.insert ⟨settings, Memory.store ids⟩ (insertStatement table column literal) (.start m) =
        (.ok 1, s) ∧
      (Client.select ⟨settings, Memory.store ids⟩ (equalsStatement table column literal) [] s).1 =
        (plan.found [] (m.documents table ++ [(Document.ofLiteral column
          (Literal.parse (String.ofList (cleanLiteral literal)))).ensureId (ids m.issued)])).map
            .ofDocuments := by
  have reads := extractInsert_literal named path written (notMem_backslash_of_accepted inserts)
  have valid := Client.validate_rowDocument [column]
    [Literal.parse (String.ofList (cleanLiteral literal))]
  obtain ⟨after, stored, -⟩ := Memory.insertMany_of_valid ids table m
    (List.forall_mem_singleton.mpr valid)
  have documents := Memory.insertMany_single stored
  have ran : (Direct.insert ⟨settings, Memory.store ids⟩ (insertStatement table column literal)).run m =
      (.ok 1, after) := by
    refine Direct.run_insert inserts reads allowed ?_
    rw [Memory.store_insertMany, List.map_singleton]
    exact stored
  obtain ⟨s, inserted, rfl, faithful⟩ :=
    (Client.agrees_insert fun _ => rfl).exists_after (Session.faithful_start m) ran
  subst isPlan
  have noExists : (Select.planOf table (some predicate) none).exists_ = none := rfl
  have rows : (Direct.select ⟨settings, Memory.store ids⟩ (equalsStatement table column literal)
      []).run s.store = _ :=
    Direct.run_select_find selects read allowed (by nofun) rfl rfl rfl rfl
  refine ⟨s, inserted, ((Client.agrees_select fun _ => rfl).answer_eq faithful rows).trans ?_⟩
  -- all fields of every document are shown
  have shown (docs : List Document) : ((Select.planOf table (some predicate) none).page
      (arranged none docs)).map (Select.planOf table (some predicate) none).shown = docs := by
    rw [SelectPlan.page_eq_self rfl rfl]
    exact List.map_id docs
  simp only [shown, Direct.selected_eq_found noExists]
  change Except.map _ (SelectPlan.found _ [] (s.store.documents table)) = _
  rw [documents, Client.rowDocument_single]

theorem Client.insertThenSelect_eq {column literal : String} (predicate : String)
    (path : path? column.toList = some (column.toList, [])) (written : IsLiteral literal.toList)
    (inserts : Accepted true (Write.insertText "table1".toList column.toList literal.toList))
    (selects : Accepted true (Select.equalsText "table1".toList column.toList literal.toList))
    (read : extractSelect (cleanStatement (equalsStatement "table1" column literal)) =
      .ok (Select.planOf "table1" (some predicate) none)) :
    Client.insertThenSelect column literal = (.ok 1,
      ((Select.planOf "table1" (some predicate) none).found [] [(Document.ofLiteral column
        (Literal.parse (String.ofList (cleanLiteral literal)))).ensureId .nil]).map .ofDocuments) := by
  have forbids : (Settings.standard "localhost" "test").forbidCastSort = true := rfl
  rw [← toList_insertStatement, ← checkStatement_eq_ok_iff, ← forbids] at inserts
  rw [← toList_equalsStatement, ← checkStatement_eq_ok_iff, ← forbids] at selects
  obtain ⟨s, inserted, selected⟩ := @Client.select_after_insert _ (fun _ => .nil) _ _ _ .empty _ _
    rfl (by decide) path written (by decide) inserts selects read
  rw [Client.insertThenSelect, inserted, selected]
  rfl

/-- A connector in quotes does not matter. -/
theorem quoted_literal_is_found : ∃ doc docs,
    Client.insertThenSelect "a" "'this OR that'" = (.ok 1, .ok (.ofDocuments docs)) ∧
      doc ∈ docs := by
  have inner : unquote? (cleanLiteral "'this OR that'") = some "this OR that".toList := by rfl
  have noInstant : (Time.Instant.parseInternet "this OR that").isOk = false := by decide +kernel
  -- letters stand for the statement, since the kernel takes long to decode a long text
  have read : extractSelect (cleanStatement (equalsStatement "table1" "a" "'this OR that'")) =
      .ok (Select.planOf "table1" (some "a = 'this OR that'") none) := by
    rw [cleanStatement, toList_equalsStatement, extractSelect, String.toList_ofList]
    decide +kernel
  have written : IsLiteral ('\'' :: ("this OR that".toList ++ ['\''])) := .quoted rfl (by decide)
  have finds : FindsLiteral "table1" "a" "'this OR that'" := {
    named := by decide
    notWhere := by simp [Spells, spells]
    path := rfl
    written
    direct := .inl (by decide)
    short := by
      rw [← String.length_toList, cleanStatement, String.toList_ofList, toList_equalsStatement]
      decide +kernel
    quoted := by
      intro written same
      obtain rfl : _ = written := Option.some.inj (inner.symm.trans same)
      refine ⟨by decide, by rfl, fun t parsed => ?_, fun plan same => ?_⟩
      · rw [String.ofList_toList] at parsed
        rw [parsed] at noInstant
        cases noInstant
      · cases read.symm.trans same
        exact ⟨rfl, rfl⟩ }
  -- the literal is a variable here, so that no text is evaluated
  have whole {column literal : String} (finds : FindsLiteral "table1" column literal) {n : Nat}
      {rows : ResultTable} (inserted : (Client.insertThenSelect column literal).1 = .ok n)
      (selected : (Client.insertThenSelect column literal).2 = .ok rows) :
      ∃ doc docs, rows = .ofDocuments docs ∧ doc ∈ docs := by
    simp only [Client.insertThenSelect] at inserted selected
    generalize insertion : Client.insert _ _ _ = answer at inserted selected
    generalize selection : Client.select _ _ _ _ = result at selected
    obtain ⟨_, _⟩ := answer
    obtain ⟨_, _⟩ := result
    subst inserted selected
    obtain ⟨doc, docs, -, found⟩ :=
      inserted_literal_is_found ⟨[], .empty, rfl⟩ finds insertion selection
    exact ⟨doc, docs, found⟩
  have answers := Client.insertThenSelect_eq "a = 'this OR that'" finds.path finds.written
    (by decide +kernel) (by decide +kernel) read
  have insertion : (Client.insertThenSelect "a" "'this OR that'").1 = .ok 1 := by rw [answers]
  have accepted : (Client.insertThenSelect "a" "'this OR that'").2.isOk = true := by
    rw [answers]
    decide +kernel
  cases selection : (Client.insertThenSelect "a" "'this OR that'").2 with
  | error e =>
    rw [selection] at accepted
    cases accepted
  | ok rows =>
    obtain ⟨doc, docs, rfl, member⟩ := whole finds insertion selection
    exact ⟨doc, docs, Prod.ext insertion selection, member⟩

/-- Whether the INSERT of a literal succeeds and the SELECT that asks for it answers without the
document. -/
def Client.MissesLiteral (column literal : String) : Prop :=
  path? column.toList = some (column.toList, []) ∧ IsLiteral literal.toList ∧
    (Client.insertThenSelect column literal).1 = .ok 1 ∧
    (Client.insertThenSelect column literal).2.toOption.map ResultTable.size = some 0

theorem Client.missesLiteral_of_read {column literal : String} (predicate : String)
    (path : path? column.toList = some (column.toList, [])) (written : IsLiteral literal.toList)
    (inserts : Accepted true (Write.insertText "table1".toList column.toList literal.toList))
    (selects : Accepted true (Select.equalsText "table1".toList column.toList literal.toList))
    (read : extractSelect (cleanStatement (equalsStatement "table1" column literal)) =
      .ok (Select.planOf "table1" (some predicate) none))
    (missed : ((Select.planOf "table1" (some predicate) none).found [] [(Document.ofLiteral column
      (Literal.parse (String.ofList (cleanLiteral literal)))).ensureId .nil]).toOption.map
        List.length = some 0) : Client.MissesLiteral column literal := by
  refine ⟨path, written, ?_⟩
  rw [Client.insertThenSelect_eq predicate path written inserts selects read]
  refine ⟨rfl, ?_⟩
  generalize SelectPlan.found _ _ _ = found at missed
  cases found with
  | error e => cases missed
  | ok docs =>
    obtain rfl : docs = [] := List.length_eq_zero_iff.mp (Option.some.inj missed)
    rfl

/-- The two readers do not agree on an empty text, on a text of 24 hexadecimal digits and on an
internet timestamp in quotes, and a column with a point is not the path with the same name. -/
theorem literals_that_are_not_found :
    Client.MissesLiteral "a" "''" ∧ Client.MissesLiteral "a" "'507f1f77bcf86cd799439011'" ∧
      Client.MissesLiteral "a" "'2024-03-01T12:00:00Z'" ∧ Client.MissesLiteral "a.b" "1" := by
  have quoted (inner : List Char) (noQuote : ∀ c ∈ inner, isQuote c = false) :
      IsLiteral ('\'' :: (inner ++ ['\''])) := .quoted rfl noQuote
  refine ⟨Client.missesLiteral_of_read "a = ''" rfl (quoted [] (by decide)) (by decide +kernel)
      (by decide +kernel) ?_ (by decide +kernel),
    Client.missesLiteral_of_read "a = '507f1f77bcf86cd799439011'" rfl
      (quoted "507f1f77bcf86cd799439011".toList (by decide)) (by decide +kernel)
      (by decide +kernel) ?_ (by decide +kernel),
    Client.missesLiteral_of_read "a = '2024-03-01T12:00:00Z'" rfl
      (quoted "2024-03-01T12:00:00Z".toList (by decide)) (by decide +kernel)
      (by decide +kernel) ?_ (by decide +kernel),
    Client.missesLiteral_of_read "a.b = 1" rfl (.integer (by decide)) (by decide +kernel)
      (by decide +kernel) ?_ (by decide +kernel)⟩ <;>
  · rw [cleanStatement, toList_equalsStatement, extractSelect, String.toList_ofList]
    decide +kernel

/-! ## Texts in quotes -/

def quotedText (text : String) : String := "'" ++ text ++ "'"

theorem toList_quotedText (text : String) :
    (quotedText text).toList = '\'' :: (text.toList ++ ['\'']) := by
  simp [quotedText]

variable {text : String}

theorem cleanLiteral_quotedText (text : String) :
    cleanLiteral (quotedText text) = '\'' :: (squeeze text.toList ++ ['\'']) := by
  rw [cleanLiteral, toList_quotedText, clean_quoted rfl]

/-- The plan of an INSERT of a text in quotes. -/
theorem extractInsert_quotedText (named : IsName table) (isColumn : IsName column)
    (inside : ∀ c ∈ text.toList, isQuote c = false ∧ c ≠ '\\') :
    extractInsert (cleanStatement (insertStatement table column (quotedText text))) =
      .ok ⟨table, [column], [[.string (String.ofList (squeeze text.toList))]]⟩ := by
  have written : IsLiteral (quotedText text).toList := by
    rw [toList_quotedText]
    exact .quoted rfl fun c member => (inside c member).1
  have squeezed : ∀ c ∈ squeeze text.toList, isQuote c = false ∧ c ≠ '\\' := by
    intro c member
    rcases mem_squeeze member with rfl | written
    · decide
    · exact inside c written
  have oneLine : '\n' ∉ squeeze text.toList := notMem_squeeze rfl (by decide)
  have value : IsValueText (cleanLiteral (quotedText text)) := by
    rw [cleanLiteral_quotedText]
    exact isValueText_quoted rfl squeezed oneLine
  have word : IsWord column.toList :=
    ⟨isColumn.nonempty, fun c member => isBlank_of_isWordChar (isColumn.members c member)⟩
  rw [extractInsert_insertStatement named word
    (fun c member => isPlain_of_isWordChar (isColumn.members c member))
    written.ends.1 written.ends.2 value, cleanLiteral_quotedText, Literal.parse_quoted rfl]

/-- In every session that a client of a store in memory can reach: an INSERT of a text without
quotation marks, if it succeeds, appends one document, whose column holds the text with one space
for each run of blanks. So the column holds the text itself exactly if all its blanks are spaces
that stand alone. -/
theorem inserted_text_is_squeezed {s inserted : Session Memory} {n : Nat}
    (reached : ∃ operations start,
      Operation.runAll ⟨settings, Memory.store ids⟩ operations (Session.start start) = s)
    (named : IsName table) (isColumn : IsName column)
    (noQuote : ∀ c ∈ text.toList, isQuote c = false)
    (insertion : Client.insert ⟨settings, Memory.store ids⟩
      (insertStatement table column (quotedText text)) s = (.ok n, inserted)) :
    ∃ doc, inserted.store.documents table = s.store.documents table ++ [doc] ∧
      doc.get? column = some (.string (String.ofList (squeeze text.toList))) ∧
      (doc.get? column = some (.string text) ↔ IsSingleSpaced text.toList) := by
  obtain ⟨operations, start, rfl⟩ := reached
  have faithful := Operation.runAll_faithful ⟨settings, Memory.store ids⟩ operations start
  obtain ⟨ran, -⟩ := (Client.agrees_insert (fun _ => rfl)).run_eq faithful insertion
  have noBackslash : '\\' ∉ text.toList := by
    have whole := Direct.notMem_backslash ran
    rw [toList_quotedText] at whole
    simpa using whole
  have inside : ∀ c ∈ text.toList, isQuote c = false ∧ c ≠ '\\' :=
    fun c member => ⟨noQuote c member, fun same => noBackslash (same ▸ member)⟩
  have read := extractInsert_quotedText named isColumn inside
  have stored := Document.get?_inserted column (.string (String.ofList (squeeze text.toList)))
    (ids (Operation.runAll ⟨settings, Memory.store ids⟩ operations (.start start)).store.issued)
  refine ⟨_, Direct.insert_single read ran, stored, ?_⟩
  rw [stored, ← squeeze_eq_self_iff, Literal.toValue, Option.some.injEq, Value.string.injEq,
    ← String.toList_inj, String.toList_ofList]

/-! ## In an empty store -/

/-- What an INSERT of a text in quotes answers in a client of an empty store, and its session. -/
def Client.insertText (text : String) : Except SqlError Nat × Session Memory :=
  let client : Client Memory := ⟨.standard "localhost" "test", Memory.store fun _ => .nil⟩
  client.insert (insertStatement "table1" "a" (quotedText text)) (.start .empty)

/-- Commas and brackets stay, and so do single spaces. -/
theorem inserted_brackets_are_kept : (Client.insertText " a, (b] c").1 = .ok 1 ∧
    ∃ doc, (Client.insertText " a, (b] c").2.store.documents "table1" = [doc] ∧
      doc.get? "a" = some (.string " a, (b] c") := by
  have answer : (Client.insertText " a, (b] c").1 = .ok 1 := by decide +kernel
  have single : IsSingleSpaced " a, (b] c".toList := ⟨by decide, by decide⟩
  -- the text is a variable here, so that nothing is evaluated
  have whole {text : String} (noQuote : ∀ c ∈ text.toList, isQuote c = false)
      (single : IsSingleSpaced text.toList) (answer : (Client.insertText text).1 = .ok 1) :
      ∃ doc, (Client.insertText text).2.store.documents "table1" = [doc] ∧
        doc.get? "a" = some (.string text) := by
    obtain ⟨doc, stored, -, kept⟩ := inserted_text_is_squeezed
      ⟨[], .empty, rfl⟩ (by decide) (by decide) noQuote (Prod.ext answer rfl)
    exact ⟨doc, stored, kept.mpr single⟩
  exact ⟨answer, whole (by decide) single answer⟩

/-- Two spaces in quotes are stored as one. -/
theorem inserted_spaces_are_lost : (∀ c ∈ "x  y".toList, isQuote c = false) ∧
    (Client.insertText "x  y").1 = .ok 1 ∧
    ((Client.insertText "x  y").2.store.documents "table1").map
      (fun doc => (doc.get? "a").bind Value.asString?) = [some "x y"] := by
  decide +kernel

end DocQuery

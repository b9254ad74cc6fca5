import DocQuery.Proofs.Statement.WriteGrammar

/-! # Reading written INSERTs

An INSERT that is written by the grammar is cut into its columns and rows, whatever stands in its
strings.

* `InsertStatement.insertFrame?_text` — table, columns and rows.
* `InsertStatement.rowTexts_rowsText` — the text of each row.
* `InsertStatement.extract_eq` — the plan, or the error about the first row that does not fit.
-/

namespace DocQuery.Write

open DocQuery.Text

variable {sql : String} {w s : List Char}

/-! ## Rows -/

theorem FillsRow.commaList {α : Type} {print : α → List Char} (list : CommaList α)
    (fills : ∀ item, FillsRow (print item)) : FillsRow (list.text print) := by
  have gap (gap : Gap) : FillsRow gap.text := .plain (by cases gap <;> decide)
  induction list with
  | last item => exact fills item
  | cons item before after rest ih =>
    have comma : FillsRow ([','] ++ (after.text ++ rest.text print)) :=
      .append (.plain (by decide)) ((gap after).append ih)
    exact (fills item).append ((gap before).append comma)

namespace WrittenRow

variable (row : WrittenRow)

theorem fillsRow : FillsRow row.inner := by
  have gap (gap : Gap) : FillsRow gap.text := .plain (by cases gap <;> decide)
  exact (gap row.before).append
    ((FillsRow.commaList row.literals WrittenLiteral.fillsRow).append (gap row.after))

/-- A row is read to its closing parenthesis. -/
theorem rowTextsFrom_text (rest : List Char) : rowTextsFrom 0 none [] (row.text ++ rest) =
    (rowTextsFrom 0 none [] rest).map (row.inner :: ·) := by
  have opens : rowTextsFrom 0 none [] (row.text ++ rest) =
      rowTextsFrom 1 none [] (row.inner ++ ')' :: rest) := by
    simp [text, rowTextsFrom]
  have closes : rowTextsFrom 1 none (row.inner.reverse ++ []) (')' :: rest) =
      (rowTextsFrom 0 none [] rest).map (row.inner :: ·) := by
    simp [rowTextsFrom, show isQuote ')' = false from rfl]
  rw [opens, row.fillsRow, closes]

theorem isListItem_literals :
    ∀ literal ∈ row.literals.items, IsListItem (WrittenLiteral.text literal) :=
  fun literal _ => literal.isListItem

theorem isTidy : IsTidy row.text := by
  have literals := CommaList.isTidy_text row.isListItem_literals
  have closed := row.after.isTidy_append literals (isTidy_char (c := ')') rfl)
  have opened := row.before.isTidy_append (isTidy_char (c := '(') rfl) closed
  simpa [text, inner] using opened

/-- The literals of a row are read one by one. -/
theorem readRow_inner (columns : Nat) : readRow columns row.inner =
    if row.literals.items.length = columns then .ok row.values
    else .error (.valueCount row.literals.items.length columns) := by
  have read : (splitList row.inner).map (fun item => Literal.parse (String.ofList item)) =
      row.values := by
    rw [inner, CommaList.splitList_spaced row.before row.after row.isListItem_literals,
      List.map_map, values]
    exact List.map_congr_left fun literal _ => literal.parse_text
  have length : row.values.length = row.literals.items.length := by rw [values, List.length_map]
  simp only [readRow, read, length, beq_iff_eq]

end WrittenRow

/-- Between rows there are commas and blanks. -/
theorem rowTextsFrom_gap (gap : Gap) (rest : List Char) :
    rowTextsFrom 0 none [] (gap.text ++ rest) = rowTextsFrom 0 none [] rest := by
  cases gap with
  | closed => rfl
  | space => simp [Gap.text, rowTextsFrom, show isBlank ' ' = true from rfl]

theorem rowTextsFrom_rows (rows : CommaList WrittenRow) :
    rowTextsFrom 0 none [] (rows.text WrittenRow.text) = .ok (rows.items.map WrittenRow.inner) := by
  induction rows with
  | last row =>
    have read := row.rowTextsFrom_text []
    rw [List.append_nil] at read
    exact read
  | cons row before after rest ih =>
    have comma (rest : List Char) :
        rowTextsFrom 0 none [] (',' :: rest) = rowTextsFrom 0 none [] rest := by
      simp [rowTextsFrom]
    rw [CommaList.text, row.rowTextsFrom_text, rowTextsFrom_gap, comma, rowTextsFrom_gap, ih]
    rfl

/-- All rows are read if they fit, and otherwise the first one that does not is reported. -/
theorem mapM_readRow (columns : Nat) (rows : List WrittenRow) :
    (rows.map WrittenRow.inner).mapM (readRow columns) =
      match rows.find? (·.literals.items.length ≠ columns) with
      | none => .ok (rows.map WrittenRow.values)
      | some row => .error (.valueCount row.literals.items.length columns) := by
  induction rows with
  | nil => rfl
  | cons row rest ih =>
    rw [List.map_cons, List.mapM_cons, row.readRow_inner, ih]
    by_cases fits : row.literals.items.length = columns
    · rw [if_pos fits, List.find?_cons_of_neg (by simpa using fits)]
      cases rest.find? (·.literals.items.length ≠ columns) <;> rfl
    · rw [if_neg fits, List.find?_cons_of_pos (by simpa using fits)]
      rfl

/-! ## Statements -/

namespace InsertStatement

variable (statement : InsertStatement)

theorem columns_names :
    ∀ name ∈ statement.columns.items, IsColumn (WrittenName.text name) :=
  fun name _ => name.isColumn

theorem isTidy_rowsText : IsTidy statement.rowsText := by
  rw [rowsText]
  induction statement.rows with
  | last row => exact row.isTidy
  | cons row before after rest ih =>
    exact before.isTidy_append row.isTidy (after.isTidy_append (isTidy_char rfl) ih)

/-- The text of a statement is not changed by cleaning. -/
theorem isTidy_text : IsTidy statement.text := by
  have columns := CommaList.isTidy_text fun name listed =>
    (statement.columns_names name listed).isListItem
  have rows := statement.beforeRows.isTidy_append (statement.values.isWord (by decide)).isTidy
    statement.isTidy_rowsText
  have behind := statement.beforeValues.isTidy_append (isTidy_char (c := ')') rfl) rows
  have closed := statement.afterLast.isTidy_append columns behind
  have opened := statement.beforeFirst.isTidy_append (isTidy_char (c := '(') rfl) closed
  have target := statement.beforeColumns.isTidy_append statement.table.isColumn.isWord.isTidy opened
  have whole := (statement.insert.isWord (by decide)).isTidy.append_space
    ((statement.into.isWord (by decide)).isTidy.append_space target)
  simpa [text, columnsText] using whole

theorem columnsText_plain : ∀ c ∈ statement.columnsText, (c != ')') = true := by
  intro c member
  rw [bne_iff_ne]
  rintro rfl
  rw [columnsText, List.mem_append, List.mem_append] at member
  rcases member with inGap | inList | inGap
  · cases Gap.eq_of_mem inGap
  · rcases statement.columns.mem_text inList with same | same | ⟨name, listed, inside⟩
    · cases same
    · cases same
    · cases (statement.columns_names name listed).isPlain ')' inside
  · cases Gap.eq_of_mem inGap

theorem insertFrame?_text : insertFrame? statement.text =
    some ⟨statement.table.text, statement.columnsText, statement.rowsText⟩ := by
  have frame : keywords? "INSERT" "INTO" statement.text = some (' ' :: (statement.table.text ++
      (statement.beforeColumns.text ++ '(' :: (statement.columnsText ++ ')' ::
        (statement.beforeValues.text ++ (statement.values.letters ++
          (statement.beforeRows.text ++ statement.rowsText))))))) :=
    statement.insert.keywords?_append statement.into (by decide) _
  have ends : endsWord (statement.beforeColumns.text ++ '(' :: (statement.columnsText ++ ')' ::
      (statement.beforeValues.text ++ (statement.values.letters ++
        (statement.beforeRows.text ++ statement.rowsText))))) = true := by
    cases statement.beforeColumns <;> rfl
  have isTable := statement.table.isTable ends
  have opens := statement.beforeColumns.char?_append (c := '(') rfl
  have columns (rest : List Char) :
      (statement.columnsText ++ ')' :: rest).takeWhile (· != ')') = statement.columnsText := by
    rw [List.takeWhile_append_of_pos statement.columnsText_plain]
    simp
  have filled : statement.columnsText.isEmpty = false := by
    have some_ := (CommaList.isTidy_text fun name listed =>
      (statement.columns_names name listed).isListItem).ne_nil
    simp [columnsText, some_]
  have closes (rest : List Char) : char? ')' (')' :: rest) = some rest := rfl
  have isValues := (statement.values.isWord (by decide)).isTidy
  have values : skipBlanks (statement.beforeValues.text ++ (statement.values.letters ++
      (statement.beforeRows.text ++ statement.rowsText))) =
        statement.values.letters ++ (statement.beforeRows.text ++ statement.rowsText) := by
    rw [statement.beforeValues.skipBlanks_append, isValues.skipBlanks_append]
  have tidy := statement.isTidy_rowsText
  have rows : someLine? (skipBlanks (statement.beforeRows.text ++ statement.rowsText)) =
      some statement.rowsText := by
    rw [statement.beforeRows.skipBlanks_append, skipBlanks_eq_self tidy.first]
    simp [someLine?, line?, tidy.ne_nil, tidy.newline_notMem]
  simp only [insertFrame?, frame, bind, Option.bind_some, isTable.isWord.isTidy.blanks?_append,
    isTable.word?_eq, opens, columns, filled, Bool.false_eq_true, if_false, List.drop_left, closes,
    values, statement.values.keyword?_append, rows]

theorem columnNames_text :
    ((splitAt ',' statement.columnsText).map fun c => String.ofList (trim c)) =
      statement.columns.items.map WrittenName.name := by
  have split := CommaList.splitAt_spaced statement.beforeFirst statement.afterLast
    statement.columns_names
  calc ((splitAt ',' statement.columnsText).map fun c => String.ofList (trim c))
      = ((splitAt ',' statement.columnsText).map trim).map String.ofList := by
        rw [List.map_map]
        rfl
    _ = (statement.columns.items.map WrittenName.text).map String.ofList := by
        rw [columnsText, split]
    _ = statement.columns.items.map WrittenName.name := by
        rw [List.map_map]
        exact List.map_congr_left fun name _ => name.ofList_text

theorem rowTexts_rowsText :
    rowTexts statement.rowsText = .ok (statement.rows.items.map WrittenRow.inner) := by
  rw [rowTexts, rowsText, rowTextsFrom_rows]
  cases statement.rows <;> rfl

/-- The plan of a statement, or the first row that does not fit. -/
theorem extract_eq (written : clean sql.toList = statement.text) : extractInsert sql =
    match statement.rows.items.find? (statement.IsRagged ·) with
    | none => .ok statement.plan
    | some row => .error (.malformed (.valueCount row.literals.items.length
        statement.columns.items.length) sql) := by
  have filled : (statement.columns.items.map WrittenName.name).any (·.isEmpty) = false := by
    rw [List.any_eq_false]
    intro column listed
    obtain ⟨name, -, rfl⟩ := List.mem_map.mp listed
    simpa using name.isName.ne_empty
  have rows : (statement.rows.items.map WrittenRow.inner).mapM
      (readRow statement.columns.items.length) =
        match statement.rows.items.find? (statement.IsRagged ·) with
        | none => .ok (statement.rows.items.map WrittenRow.values)
        | some row => .error (.valueCount row.literals.items.length
            statement.columns.items.length) :=
    mapM_readRow _ _
  simp only [extractInsert, written, statement.insertFrame?_text, bind, Except.bind,
    statement.rowTexts_rowsText, statement.columnNames_text, filled, Bool.false_eq_true, if_false,
    List.length_map, rows]
  cases statement.rows.items.find? (statement.IsRagged ·) with
  | none =>
    rw [statement.table.ofList_text]
    rfl
  | some row => rfl

end InsertStatement

end DocQuery.Write

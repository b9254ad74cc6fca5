import DocQuery.Proofs.Statement.SelectText
import DocQuery.Proofs.Text.Cleaning
import DocQuery.Statement.Write

/-! # An INSERT of one value

What is read from an INSERT of one value into one column.

* `insertText` — the statement.
* `FillsRow` — a text that is read to its end inside a row.
* `extractInsert_insertText` — its plan.
-/

namespace DocQuery.Write

open DocQuery.Text

variable {table column value w s t : List Char} {c : Char}

/-- An INSERT of a value into a column of a table. -/
def insertText (table column value : List Char) : List Char :=
  "INSERT".toList ++ ' ' :: ("INTO".toList ++ ' ' :: (table ++ '(' :: (column ++ ')' :: ' ' ::
    ("VALUES".toList ++ ' ' :: '(' :: (value ++ [')'])))))

theorem insertText_eq (table column value : List Char) : insertText table column value =
    "INSERT".toList ++ ' ' :: ("INTO".toList ++ ' ' :: (table ++ '(' :: (column ++ ')' :: ' ' ::
      ("VALUES".toList ++ ' ' :: '(' :: (value ++ [')']))))) := rfl

/-! ## Rows -/

/-- Inside a row, and inside parentheses in it, the text is read to its end. -/
def FillsRow (w : List Char) : Prop :=
  ∀ depth row rest, rowTextsFrom (depth + 1) none row (w ++ rest) =
    rowTextsFrom (depth + 1) none (w.reverse ++ row) rest

namespace FillsRow

theorem append (first : FillsRow s) (second : FillsRow t) : FillsRow (s ++ t) := by
  intro depth row rest
  rw [List.append_assoc, first, second, List.reverse_append, List.append_assoc]

theorem plain (plain : ∀ c ∈ w, isQuote c = false ∧ c ≠ '(' ∧ c ≠ ')') : FillsRow w := by
  intro depth row rest
  induction w generalizing row with
  | nil => rfl
  | cons c w ih =>
    obtain ⟨⟨notQuote, notOpening, notClosing⟩, others⟩ := List.forall_mem_cons.mp plain
    have step : rowTextsFrom (depth + 1) none row (c :: (w ++ rest)) =
        rowTextsFrom (depth + 1) none (c :: row) (w ++ rest) := by
      simp [rowTextsFrom, notQuote, notOpening, notClosing]
    rw [List.cons_append, step, ih others]
    simp

theorem inQuotes {mark : Char} (inside : mark ∉ w) (depth : Nat) (row rest : List Char) :
    rowTextsFrom depth (some mark) row (w ++ mark :: rest) =
      rowTextsFrom depth none (mark :: (w.reverse ++ row)) rest := by
  induction w generalizing row with
  | nil => simp [rowTextsFrom]
  | cons c w ih =>
    rw [List.mem_cons, not_or] at inside
    have step : rowTextsFrom depth (some mark) row (c :: (w ++ mark :: rest)) =
        rowTextsFrom depth (some mark) (c :: row) (w ++ mark :: rest) := by
      simp [rowTextsFrom, Ne.symm inside.1]
    rw [List.cons_append, step, ih inside.2]
    simp

theorem quoted {mark : Char} (isMark : isQuote mark = true) (inside : mark ∉ w) :
    FillsRow (mark :: (w ++ [mark])) := by
  intro depth row rest
  have step : rowTextsFrom (depth + 1) none row (mark :: (w ++ mark :: rest)) =
      rowTextsFrom (depth + 1) (some mark) (mark :: row) (w ++ mark :: rest) := by
    simp [rowTextsFrom, isMark]
  have text : (mark :: (w ++ [mark])) ++ rest = mark :: (w ++ mark :: rest) := by simp
  rw [text, step, inQuotes inside]
  simp

theorem parenthesised (inside : FillsRow w) : FillsRow ('(' :: (w ++ [')'])) := by
  intro depth row rest
  have opens : rowTextsFrom (depth + 1) none row ('(' :: (w ++ ')' :: rest)) =
      rowTextsFrom (depth + 2) none ('(' :: row) (w ++ ')' :: rest) := by
    simp [rowTextsFrom, show isQuote '(' = false from rfl]
  have closes (row : List Char) : rowTextsFrom (depth + 2) none row (')' :: rest) =
      rowTextsFrom (depth + 1) none (')' :: row) rest := by
    simp [rowTextsFrom, show isQuote ')' = false from rfl]
  have text : ('(' :: (w ++ [')'])) ++ rest = '(' :: (w ++ ')' :: rest) := by simp
  rw [text, opens, inside, closes]
  simp

end FillsRow

/-- A value that fills its row is the only row. -/
theorem rowTexts_value (fills : FillsRow value) :
    rowTexts ('(' :: (value ++ [')'])) = .ok [value] := by
  have opens : rowTextsFrom 0 none [] ('(' :: (value ++ [')'])) =
      rowTextsFrom 1 none [] (value ++ [')']) := by
    simp [rowTextsFrom]
  have closes : rowTextsFrom 1 none (value.reverse ++ []) [')'] = .ok [value] := by
    simp [rowTextsFrom, show isQuote ')' = false from rfl, Except.map]
  rw [rowTexts, opens, fills, closes]
  rfl

theorem readRow_value (single : listPieces .outside 0 value = [value])
    (trimmed : trim value = value) :
    readRow 1 value = .ok [Literal.parse (String.ofList value)] := by
  simp [readRow, splitList, single, trimmed]

/-! ## The plan -/

theorem clean_insertText (isTable : Select.IsTable table []) (isColumn : IsWord column)
    (solid : isBlank c = false) (last : (c :: s).getLast?.all (!isBlank ·) = true) :
    clean (insertText table column (c :: s)) = insertText table column (clean (c :: s)) := by
  have target : IsWord (table ++ '(' :: (column ++ [')'])) := by
    refine ⟨by simp, ?_⟩
    rw [List.forall_mem_append, List.forall_mem_cons, List.forall_mem_append]
    exact ⟨isTable.isWord.unbroken, rfl, isColumn.unbroken,
      by simp [show isBlank ')' = false from rfl]⟩
  have text (value : List Char) : insertText table column value =
      "INSERT".toList ++ ' ' :: ("INTO".toList ++ ' ' :: ((table ++ '(' :: (column ++ [')'])) ++
        ' ' :: ("VALUES".toList ++ ' ' :: (['('] ++ (value ++ [')']))))) := by
    simp [insertText_eq]
  have row : clean (['('] ++ (c :: s ++ [')'])) = ['('] ++ (clean (c :: s) ++ [')']) := by
    rw [← clean_concat last rfl]
    exact clean_append (by simp [show isBlank '(' = false from rfl]) solid (s ++ [')'])
  rw [text, clean_word_append ⟨by decide, by decide⟩, clean_word_append ⟨by decide, by decide⟩,
    clean_word_append target, clean_word_append ⟨by decide, by decide⟩, row, ← text]
  -- behind each of the words something is written
  all_goals exact words_ne_nil_of_mem (c := '(') (by simp) rfl

theorem insertFrame?_insertText (isTable : Select.IsTable table []) (nonempty : column ≠ [])
    (noBracket : ')' ∉ column) (oneLine : '\n' ∉ value) :
    insertFrame? (insertText table column value) =
      some ⟨table, column, '(' :: (value ++ [')'])⟩ := by
  have rows : someLine? ('(' :: (value ++ [')'])) = some ('(' :: (value ++ [')'])) := by
    simp [someLine?, line?, oneLine]
  have skipped : skipBlanks (' ' :: '(' :: (value ++ [')'])) = '(' :: (value ++ [')']) := rfl
  rw [insertText_eq]
  generalize '(' :: (value ++ [')']) = written at rows skipped
  have front : keywords? "INSERT" "INTO" ("INSERT".toList ++ ' ' :: ("INTO".toList ++ ' ' ::
      (table ++ '(' :: (column ++ ')' :: ' ' :: ("VALUES".toList ++ ' ' :: written))))) =
    some (' ' :: (table ++ '(' :: (column ++ ')' :: ' ' :: ("VALUES".toList ++ ' ' :: written)))) :=
    rfl
  have values : keyword? "VALUES" (skipBlanks (' ' :: ("VALUES".toList ++ ' ' :: written))) =
    some (' ' :: written) := rfl
  generalize ' ' :: ("VALUES".toList ++ ' ' :: written) = tail at front values
  have named : Select.IsTable table ('(' :: (column ++ ')' :: tail)) := { isTable with ends := rfl }
  have opens : char? '(' (skipBlanks ('(' :: (column ++ ')' :: tail))) =
    some (column ++ ')' :: tail) := rfl
  have columns : (column ++ ')' :: tail).takeWhile (· != ')') = column := by
    have members : ∀ c ∈ column, (c != ')') = true := by
      intro c member
      rw [bne_iff_ne]
      rintro rfl
      exact noBracket member
    rw [List.takeWhile_append_of_pos members]
    simp
  have filled : column.isEmpty = false := by simpa using nonempty
  simp only [insertFrame?, front, bind, Option.bind_some, Select.blanks?_word isTable.isWord,
    named.word?_eq, opens, columns, filled, List.drop_left]
  simp only [Bool.false_eq_true, if_false, char?, if_true, Option.bind_some, values, skipped, rows]

/-- The plan of an INSERT of one value. -/
theorem extractInsert_insertText {sql : String} (isTable : Select.IsTable table [])
    (isColumn : IsWord column) (noBracket : ')' ∉ column) (noComma : ',' ∉ column)
    (cleaned : clean sql.toList = insertText table column value) (fills : FillsRow value)
    (single : listPieces .outside 0 value = [value]) (trimmed : trim value = value)
    (oneLine : '\n' ∉ value) :
    extractInsert sql = .ok ⟨String.ofList table, [String.ofList column],
      [[Literal.parse (String.ofList value)]]⟩ := by
  have frame := insertFrame?_insertText isTable isColumn.nonempty noBracket oneLine
  have whole := trim_word isColumn
  have filled : (String.ofList column).isEmpty = false := by
    rw [Bool.eq_false_iff, ne_eq, String.isEmpty_iff, String.ofList_eq_empty_iff]
    exact isColumn.nonempty
  simp only [extractInsert, cleaned, frame]
  simp [splitAt_absent noComma, whole, filled, rowTexts_value fills, readRow_value single trimmed,
    reporting, bind, Except.bind, pure, Except.pure]

end DocQuery.Write

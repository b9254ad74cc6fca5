import DocQuery.Proofs.Statement.Acceptance
import DocQuery.Proofs.Statement.SingleItem
import DocQuery.Proofs.Statement.WriteGrammar

/-! # A SELECT of a column that an INSERT names

The shortest SELECT there is: a column of a table, and no clause. It is accepted if an INSERT that
names the table and the column is.

* `columnStatement`, `columnPlan` — the statement, and what it says.
* `extractSelect_columnStatement` — the plan, with as much of the table's name as is read.
* `InsertStatement.names` — table and columns stand between words.
* `accepted_columnStatement` — acceptance of the one from that of the other.
-/

namespace DocQuery

open DocQuery.Text Safety Select

variable {sql column table : String}

def columnStatement (column table : String) : String := "SELECT " ++ column ++ " FROM " ++ table

theorem toList_columnStatement (column table : String) :
    (columnStatement column table).toList = selectText column.toList table.toList [] := by
  have front : "SELECT ".toList = "SELECT".toList ++ [' '] := rfl
  have middle : " FROM ".toList = ' ' :: ("FROM".toList ++ [' ']) := rfl
  unfold columnStatement
  simp only [String.toList_append, front, middle, selectText_eq, List.append_assoc,
    List.cons_append, List.nil_append, List.append_nil]

/-! ## Reading -/

/-- A column of a table. -/
def columnPlan (column table : String) : SelectPlan :=
  ⟨table, [column], none, none, none, none, false, none, none, none⟩

/-- No keyword of a SELECT is spelled like the column. -/
def IsFreeColumn (column : String) : Prop :=
  ∀ word ∈ "DISTINCT" :: clauseStarts, ¬ Spells word.toList column.toList

theorem clean_columnText (isColumn : IsName column) (isTable : IsName table) :
    clean (selectText column.toList table.toList []) =
      selectText column.toList table.toList [] := by
  have text := unwords_itemWords column.toList table.toList []
  rw [conditionTail, if_pos rfl] at text
  have areWords : ∀ w ∈ itemWords column.toList table.toList [], IsWord w := by
    simp only [itemWords, if_true, List.append_nil, List.forall_mem_cons]
    exact ⟨⟨by decide, by decide⟩, isColumn.isColumn.isWord, ⟨by decide, by decide⟩,
      isTable.isColumn.isWord, by simp⟩
  rw [← text, clean, words_unwords areWords]

/-- What is read of a SELECT of a column whose beginning, as far as it is read, is one too. -/
theorem extractSelect_column (isColumn : IsName column) (isTable : IsName table)
    (free : IsFreeColumn column)
    (cut : (clean sql.toList).take maxLength = selectText column.toList table.toList []) :
    extractSelect sql = .ok (columnPlan column table) := by
  have isItem := isItem_column isColumn free
  have nonempty := isTable.nonempty
  have members := isTable.members
  have window : takeWindow sql ((clean sql.toList).take maxLength) =
      .ok (none, none, selectText column.toList table.toList []) := by
    rw [cut]
    exact isItem.takeWindow_item (clean_columnText isColumn isTable)
  have noBracket : '(' ∉ selectText column.toList table.toList [] := by
    have apart : '(' ∉ column.toList ∧ '(' ∉ table.toList :=
      ⟨fun member => (by cases isColumn.members '(' member),
        fun member => (by cases members '(' member)⟩
    rw [selectText_eq]
    simp [apart]
  have end_ : IsTable table.toList [] := ⟨nonempty, members, rfl⟩
  have tail : conditionTail [] = [] := rfl
  have noGroups : groupByText? (selectText column.toList table.toList []) = none := by
    rw [← tail]
    exact isItem.clauseText?_item nonempty members (by decide) (by decide) (by decide)
      (fun s => rfl) (fun s => rfl) (by decide)
  have noOrder : orderByText? (selectText column.toList table.toList []) = none := by
    rw [← tail]
    exact isItem.clauseText?_item nonempty members (by decide) (by decide) (by decide)
      (fun s => rfl) (fun s => rfl) (by decide)
  have noCondition : whereText? (selectText column.toList table.toList []) = none :=
    whereText?_bare isColumn.isColumn (free _ (by decide)) end_
  rw [extractSelect_of_stages window isItem.takeDistinct_item (takeExists_absent noBracket)
    (fieldsText?_selectText isItem.isWord) (isItem.tableName?_item end_) (isItem.read sql),
    noCondition, noGroups, noOrder, String.ofList_toList]
  rfl

/-! ## Acceptance -/

/-- A character of names is not forbidden. -/
theorem isForbidden_of_isWordChar {c : Char} (member : isWordChar c = true) :
    isForbidden c = false := by
  -- all forbidden characters are ASCII, and of those there are few enough to look at each
  have table :
      ∀ n < 128, isWordChar (Char.ofNat n) = true → isForbidden (Char.ofNat n) = false := by
    decide
  by_cases ascii : c.toNat < 128
  · have found := table c.toNat ascii
    rw [Char.ofNat_toNat] at found
    exact found member
  · have high (limit : Nat) (small : limit < 128) : ¬ c.toNat ≤ limit ∧ c.toNat ≠ limit := by omega
    have other (d : Char) (small : d.toNat < 128) : c ≠ d := by
      rintro rfl
      exact ascii small
    simp [isForbidden, high, other]

/-- A reader that needs a character reads nothing of a text without it. -/
theorem occurs_eq_false {β : Type} {read : List Char → Option β} {c : Char} {s : List Char}
    (needs : ∀ r, c ∉ r → read r = none) (absent : c ∉ s) : occurs read s = false := by
  have nowhere : searchWord? read s = none := by
    rw [searchWord?_eq_none_iff]
    exact fun front rest same _ => needs rest fun member => absent (by simp [same, member])
  rw [occurs, nowhere]
  rfl

theorem castCall?_absent (r : List Char) (noBracket : '(' ∉ r) : castCall? r = none := by
  refine Option.bind_eq_none_iff.mpr fun rest read => ?_
  exact char?_blanks_absent fun member => noBracket (keyword?_subset read member)

theorem innerPattern?_absent (r : List Char) (noQuote : '\'' ∉ r) : innerPattern? r = none := by
  refine Option.bind_eq_none_iff.mpr fun rest read => ?_
  refine Option.bind_eq_none_iff.mpr fun behind blank => ?_
  have absent : '\'' ∉ behind := fun member =>
    noQuote (keyword?_subset read (blanks?_subset blank member))
  have nothing : char? '\'' behind = none := by
    cases behind with
    | nil => rfl
    | cons d more => rw [char?, if_neg (by simp_all [eq_comm])]
  rw [nothing]
  rfl

/-- The words of the statement that are not names. -/
theorem lacks_keywords : ∀ word ∈ refusedWords,
    IsKeyword word ∧ Lacks word "SELECT".toList ∧ Lacks word "FROM".toList := by decide

theorem countFunctions_columnText (column table : List Char) :
    countFunctions none (selectText column table []) =
      countFunctions none column + countFunctions none table := by
  have noSelect : countFunctions none "SELECT".toList = 0 := by decide
  have noFrom : countFunctions none "FROM".toList = 0 := by decide
  rw [selectText_eq, List.append_nil, countFunctions_append_cons rfl,
    countFunctions_append_cons rfl, countFunctions_append_cons rfl, noSelect, noFrom]
  omega

section columnText

variable (isColumn : IsName column) (isTable : IsName table)

include isColumn isTable

/-- Words and spaces are all there is. -/
theorem mem_columnText {c : Char} (member : c ∈ selectText column.toList table.toList []) :
    c = ' ' ∨ isWordChar c = true := by
  have keywords : (∀ c ∈ "SELECT".toList, isWordChar c = true) ∧
      ∀ c ∈ "FROM".toList, isWordChar c = true := by decide
  simp only [selectText_eq, List.append_nil, List.mem_append, List.mem_cons] at member
  rcases member with inSelect | space | inColumn | space | inFrom | space | inTable
  · exact .inr (keywords.1 c inSelect)
  · exact .inl space
  · exact .inr (isColumn.members c inColumn)
  · exact .inl space
  · exact .inr (keywords.2 c inFrom)
  · exact .inl space
  · exact .inr (isTable.members c inTable)

/-- A SELECT of a column is accepted if its names hold no refused word and one function at most. -/
theorem accepted_columnStatement {forbid : Bool}
    (lacksColumn : ∀ word ∈ refusedWords, Lacks word column.toList)
    (lacksTable : ∀ word ∈ refusedWords, Lacks word table.toList)
    (oneFunction : countFunctions none column.toList + countFunctions none table.toList ≤ 1) :
    Accepted forbid (columnStatement column table).toList := by
  rw [toList_columnStatement]
  have absent (c : Char) (notSpace : c ≠ ' ') (separates : isWordChar c = false) :
      c ∉ selectText column.toList table.toList [] := by
    intro member
    rcases mem_columnText isColumn isTable member with space | inWord
    · exact notSpace space
    · exact absurd inWord (by simp [separates])
  constructor
  · have tidy : IsTidy (selectText column.toList table.toList []) :=
      .of_clean (clean_columnText isColumn isTable) (by simp [selectText_eq])
    rw [tidy.trimmed]
    exact tidy.ne_nil
  · intro c member
    rcases mem_columnText isColumn isTable member with rfl | inWord
    · rfl
    · exact isForbidden_of_isWordChar inWord
  · intro word refused
    obtain ⟨isKeyword, noSelect, noFrom⟩ := lacks_keywords word refused
    rw [selectText_eq, List.append_nil, lacks_append_cons isKeyword rfl,
      lacks_append_cons isKeyword rfl, lacks_append_cons isKeyword rfl]
    exact ⟨noSelect, lacksColumn word refused, noFrom, lacksTable word refused⟩
  · rw [occurs_eq_false castCall?_absent (absent '(' (by decide) rfl), Bool.and_false,
      Bool.false_and]
  · exact occurs_eq_false innerPattern?_absent (absent '\'' (by decide) rfl)
  · rwa [countFunctions_columnText]

end columnText

theorem clean_columnStatement (isColumn : IsName column) (isTable : IsName table) :
    clean (cleanStatement (columnStatement column table)).toList =
      selectText column.toList table.toList [] := by
  have cleaned := clean_columnText isColumn isTable
  rw [cleanStatement, String.toList_ofList, toList_columnStatement, cleaned, cleaned]

theorem length_columnStatement (column table : String) :
    (columnStatement column table).length = column.length + 13 + table.length := by
  have front : "SELECT ".length = 7 := rfl
  have middle : " FROM ".length = 6 := rfl
  rw [columnStatement, String.length_append, String.length_append, String.length_append, front,
    middle]
  omega

/-- As much of the table's name as is read. -/
def readName (column table : String) : String :=
  String.ofList (table.toList.take (maxLength - (column.length + 13)))

theorem readName_of_short (short : (columnStatement column table).length ≤ maxLength) :
    readName column table = table := by
  rw [length_columnStatement] at short
  rw [readName, List.take_of_length_le, String.ofList_toList]
  rw [String.length_toList]
  omega

/-- The plan of the statement. A table whose name is too long is read as another one. -/
theorem extractSelect_columnStatement (isColumn : IsName column) (isTable : IsName table)
    (free : IsFreeColumn column) (room : column.length + 13 < maxLength) :
    extractSelect (cleanStatement (columnStatement column table)) =
      .ok (columnPlan column (readName column table)) := by
  have isRead : IsName (readName column table) := by
    constructor
    · rw [readName, String.toList_ofList, ne_eq, List.take_eq_nil_iff, not_or]
      exact ⟨by omega, isTable.nonempty⟩
    · intro c member
      rw [readName, String.toList_ofList] at member
      exact isTable.members c (List.mem_of_mem_take member)
  refine extractSelect_column isColumn isRead free ?_
  have parts (table : List Char) : selectText column.toList table [] =
      ("SELECT".toList ++ ' ' :: (column.toList ++ ' ' :: ("FROM".toList ++ [' ']))) ++ table := by
    simp [selectText_eq]
  have head : ("SELECT".toList ++ ' ' :: (column.toList ++ ' ' ::
      ("FROM".toList ++ [' ']))).length = column.length + 13 := by
    have select : "SELECT".toList.length = 6 := rfl
    have from_ : "FROM".toList.length = 4 := rfl
    rw [← String.length_toList]
    simp only [List.length_append, List.length_cons, List.length_nil, select, from_]
    omega
  generalize "SELECT".toList ++ ' ' :: (column.toList ++ ' ' :: ("FROM".toList ++ [' '])) = front
    at parts head
  -- the cut is behind the words in front of the table
  have kept : front.take maxLength = front := List.take_of_length_le (by omega)
  rw [clean_columnStatement isColumn isTable, parts, parts, List.take_append, head, kept, readName,
    String.toList_ofList]

/-- A short statement is read as a whole. -/
theorem extractSelect_of_short (isColumn : IsName column) (isTable : IsName table)
    (free : IsFreeColumn column) (short : (columnStatement column table).length ≤ maxLength) :
    extractSelect (cleanStatement (columnStatement column table)) =
      .ok (columnPlan column table) := by
  have some_ : 0 < table.length := by
    rw [← String.length_toList]
    exact List.length_pos_iff.mpr isTable.nonempty
  have room : column.length + 13 < maxLength := by
    rw [length_columnStatement] at short
    omega
  rw [extractSelect_columnStatement isColumn isTable free room, readName_of_short short]

/-! ## Names in an INSERT -/

/-- The name of the table and that of a column stand between words. -/
theorem Write.InsertStatement.names (statement : InsertStatement) {column : WrittenName}
    (listed : column ∈ statement.columns.items) : ∃ front between back,
      statement.text = front ++ (statement.table.text ++ (between ++ (column.text ++ back))) ∧
        startsWord front.getLast? = true ∧ endsWord (between ++ (column.text ++ back)) = true ∧
        between ≠ [] ∧ startsWord between.getLast? = true ∧ endsWord back = true := by
  obtain ⟨front, back, parts, starts, ends⟩ : ∃ front back,
      statement.columns.text WrittenName.text = front ++ (column.text ++ back) ∧
        startsWord front.getLast? = true ∧ endsWord back = true := CommaList.exists_parts listed
  refine ⟨statement.insert.letters ++ ' ' :: statement.into.letters ++ [' '],
    (statement.beforeColumns.text ++ ['(']) ++ (statement.beforeFirst.text ++ front),
    back ++ (statement.afterLast.text ++ ')' :: (statement.beforeValues.text ++
      (statement.values.letters ++ (statement.beforeRows.text ++ statement.rowsText)))), ?_,
    startsWord_concat rfl, ?_, by simp, ?_, ?_⟩
  · simp [InsertStatement.text, InsertStatement.columnsText, parts]
  · rw [List.append_assoc, List.append_assoc]
    exact endsWord_append statement.beforeColumns.endsWord rfl
  · exact startsWord_append (startsWord_concat rfl)
      (startsWord_append statement.beforeFirst.startsWord starts)
  · exact endsWord_append ends (endsWord_append statement.afterLast.endsWord rfl)

/-- A SELECT of a column that an accepted INSERT names is accepted. -/
theorem accepted_of_insert {forbid forbidToo : Bool} (statement : Write.InsertStatement)
    (column : Write.WrittenName) (listed : column ∈ statement.columns.items)
    (accepted : Accepted forbid statement.text) :
    Accepted forbidToo (columnStatement column.name statement.table.name).toList := by
  obtain ⟨front, between, back, parts, starts, ends, some_, startsToo, endsToo⟩ :=
    statement.names listed
  have lacks := accepted.lacks
  have oneFunction := accepted.oneFunction
  rw [parts] at lacks oneFunction
  refine accepted_columnStatement column.isName statement.table.isName (fun word refused => ?_)
    (fun word refused => ?_) ?_
  · have whole := lacks word refused
    rw [← List.append_assoc, ← List.append_assoc] at whole
    refine lacks_part (lacks_keywords word refused).1 ?_ endsToo whole
    rwa [List.getLast?_append_of_ne_nil _ some_]
  · exact lacks_part (lacks_keywords word refused).1 starts ends (lacks word refused)
  -- the names of functions in both names are among those in the statement
  · have all := countFunctions_le starts
      (statement.table.text ++ (between ++ (column.text ++ back)))
    rw [countFunctions_append none _ ends] at all
    have behind := countFunctions_le startsToo (column.text ++ back)
    rw [countFunctions_append none _ endsToo] at behind
    change countFunctions none column.text + countFunctions none statement.table.text ≤ 1
    omega

end DocQuery

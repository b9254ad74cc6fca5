import DocQuery.Proofs.Text.ListItems
import DocQuery.Statement.Select

/-! # A SELECT of one column

What is read from a SELECT of a name or of the wildcard, with any text behind its table.

* `selectText` — the statement.
* `extractSelect_selectText` — its plan; only the clauses behind the table are left open.
* `extractSelect_bare` — nothing stands behind the table, so there is no condition.
-/

namespace DocQuery.Select

open DocQuery.Text

/-- A SELECT of one column from a table, and the text behind the table. -/
def selectText (column table tail : List Char) : List Char :=
  "SELECT".toList ++ ' ' :: (column ++ ' ' :: ("FROM".toList ++ ' ' :: (table ++ tail)))

theorem selectText_eq (column table tail : List Char) : selectText column table tail =
    "SELECT".toList ++ ' ' :: (column ++ ' ' :: ("FROM".toList ++ ' ' :: (table ++ tail))) := rfl

/-- A column that is not taken for a keyword in front of a field list or behind it. -/
structure IsField (column : List Char) : Prop where
  isColumn : IsColumn column
  notDistinct : ¬ Spells "DISTINCT".toList column
  notFrom : ¬ Spells "FROM".toList column

variable {sql : String} {column table tail s : List Char}

theorem blanks?_space {c : Char} (solid : isBlank c = false) (s : List Char) :
    blanks? (' ' :: c :: s) = some (c :: s) := by
  rw [blanks?, if_pos (show isBlank ' ' = true from rfl), skipBlanks_eq_self]
  simp [solid]

theorem blanks?_word (word : IsWord column) (s : List Char) :
    blanks? (' ' :: (column ++ s)) = some (column ++ s) := by
  obtain ⟨nonempty, unbroken⟩ := word
  obtain ⟨c, rest, rfl⟩ := List.exists_cons_of_ne_nil nonempty
  exact blanks?_space (unbroken c List.mem_cons_self) _

theorem keyword?_select (s : List Char) : keyword? "SELECT" ("SELECT".toList ++ s) = some s := rfl

theorem keyword?_from (s : List Char) : keyword? "FROM" ("FROM".toList ++ s) = some s := rfl

/-! ## Modifiers -/

theorem counted?_column {word : String} (upper : word.toList.all Char.isUpper = true)
    (isColumn : IsColumn column) (s : List Char) :
    counted? word (column ++ ' ' :: ("FROM".toList ++ s)) = none := by
  by_cases spelled : Spells word.toList column
  · -- the count would begin with the letters of FROM
    rw [counted?, keyword?, letters?_append spelled]
    rfl
  · have fails := blanks?_keyword? upper isColumn.isWord.unbroken spelled ("FROM".toList ++ s)
    simp only [counted?, bind, ← Option.bind_assoc, fails, Option.bind_none]

theorem modifier?_column (field : IsField column) (s : List Char) :
    modifier? (column ++ ' ' :: ("FROM".toList ++ s)) = none := by
  have fails := blanks?_keyword? (by decide) field.isColumn.isWord.unbroken field.notDistinct
    ("FROM".toList ++ s)
  have noTop : counted? "TOP" (column ++ ' ' :: ("FROM".toList ++ s)) = none :=
    counted?_column (by decide) field.isColumn s
  have noSkip : counted? "SKIP" (column ++ ' ' :: ("FROM".toList ++ s)) = none :=
    counted?_column (by decide) field.isColumn s
  cases distinct : keyword? "DISTINCT" (column ++ ' ' :: ("FROM".toList ++ s)) with
  | none =>
    simp only [modifier?, bareModifier?, distinct, noTop, noSkip, bind, Option.map_none,
      Option.bind_none]
  | some rest =>
    rw [distinct, Option.bind_some] at fails
    simp only [modifier?, bareModifier?, distinct, bind, Option.bind_some, fails, Option.bind_none]

theorem takeModifiers_none (noModifier : modifier? s = none) :
    takeModifiers s.length s = ([], s) := by
  cases s with
  | nil => rfl
  | cons c s => rw [List.length_cons, takeModifiers, noModifier]

theorem takeWindow_selectText (isWord : IsWord column)
    (noModifier : modifier? (column ++ ' ' :: ("FROM".toList ++ ' ' :: (table ++ tail))) = none)
    (cleaned : clean (selectText column table tail) = selectText column table tail) :
    takeWindow sql (selectText column table tail) =
      .ok (none, none, selectText column table tail) := by
  have head : splitHead? (selectText column table tail) =
      some ([], column ++ ' ' :: ("FROM".toList ++ ' ' :: (table ++ tail))) := by
    simp only [splitHead?, selectText_eq, keyword?_select, bind, Option.bind_some,
      blanks?_word isWord, takeModifiers_none noModifier]
  rw [takeWindow, head]
  exact congrArg (fun text => Except.ok (none, none, text)) cleaned

theorem wholeKeyword?_column (field : IsField column) (s : List Char) :
    wholeKeyword? "DISTINCT" (column ++ ' ' :: s) = none := by
  unfold wholeKeyword?
  split
  · rename_i rest read
    obtain ⟨p, cut, spelled⟩ := letters?_eq_some read
    have solid := spelled.unbroken (by decide)
    rcases List.append_eq_append_iff.mp cut with ⟨back, rfl, behind⟩ | ⟨back, rfl, rfl⟩
    · cases back with
      | nil => exact absurd (by simpa using spelled) field.notDistinct
      | cons c back =>
        cases behind
        cases solid ' ' (by simp)
    · cases back with
      | nil => exact absurd (by simpa using spelled) field.notDistinct
      | cons c back =>
        -- a name that is longer than the keyword goes on behind it
        cases p with
        | nil => cases spelled
        | cons first p =>
          have member : isWordChar c = true := by
            generalize whole : first :: p ++ c :: back = column at field
            cases field.isColumn with
            | all => simp at whole
            | named _ members => exact members c (by simp [← whole])
          simp [endsWord, member]
  · rfl

theorem takeDistinct_selectText (isWord : IsWord column)
    (notDistinct : ∀ s, wholeKeyword? "DISTINCT" (column ++ ' ' :: s) = none) :
    takeDistinct (selectText column table tail) = (false, selectText column table tail) := by
  simp only [takeDistinct, selectText_eq, keyword?_select, bind, Option.bind_some,
    blanks?_word isWord, notDistinct]

/-! ## Clauses -/

/-- The name of a table, with a text behind it that does not go on with the name. -/
structure IsTable (table tail : List Char) : Prop where
  nonempty : table ≠ []
  members : ∀ c ∈ table, isWordChar c = true
  ends : endsWord tail = true

namespace IsTable

theorem isWord (isTable : IsTable table tail) : IsWord table :=
  ⟨isTable.nonempty, fun c member => isBlank_of_isWordChar (isTable.members c member)⟩

theorem word?_eq (isTable : IsTable table tail) : word? (table ++ tail) = some (table, tail) := by
  obtain ⟨nonempty, members, ends⟩ := isTable
  have stops : tail.takeWhile isWordChar = [] ∧ tail.dropWhile isWordChar = tail := by
    cases tail with
    | nil => exact ⟨rfl, rfl⟩
    | cons c rest =>
      have notMember : isWordChar c = false := by simpa [endsWord] using ends
      simp [notMember]
  have front : (table ++ tail).takeWhile isWordChar = table := by
    rw [List.takeWhile_append_of_pos members, stops.1, List.append_nil]
  have back : (table ++ tail).dropWhile isWordChar = tail := by
    rw [List.dropWhile_append_of_pos members, stops.2]
  simp only [word?, run?, front, back]

end IsTable

theorem fieldsText?_selectText (isWord : IsWord column) :
    fieldsText? (selectText column table tail) = some column := by
  have cut := @cutAt?_word _ column (fun r => do beforeBlank? (← keyword? "FROM" (← blanks? r)))
    (fun solid s => by simp [blanks?, solid]) isWord
    (' ' :: ("FROM".toList ++ ' ' :: (table ++ tail)))
  have stops : (do beforeBlank? (← keyword? "FROM" (← blanks?
      (' ' :: ("FROM".toList ++ ' ' :: (table ++ tail)))))) = some () := rfl
  simp only [stops] at cut
  simp only [fieldsText?, selectText_eq, keyword?_select, bind, Option.bind_some,
    blanks?_word isWord] at cut ⊢
  rw [cut]
  rfl

/-- A search for another keyword than SELECT, FROM and the column comes to the table. -/
theorem searchWord?_selectText {β : Type} {word : String} {read : List Char → Option β}
    (needs : Needs word read) (upper : word.toList.all Char.isUpper = true)
    (letters : word.toList ≠ []) (isColumn : IsColumn column)
    (others : ¬ Spells word.toList "SELECT".toList ∧ ¬ Spells word.toList column) :
    (searchWord? read (selectText column table tail)).map (·.2) =
      (search? (atWordStart read) (some ' ')
        ("FROM".toList ++ ' ' :: (table ++ tail))).map (·.2) := by
  have select : IsColumn "SELECT".toList := .named (by decide) (by decide)
  rw [searchWord?, selectText_eq, search?_column needs letters upper select others.1,
    search?_column needs letters upper isColumn others.2, Option.map_map, Option.map_map]
  rfl

theorem tableName?_selectText (field : IsField column) (isTable : IsTable table tail) :
    tableName? (selectText column table tail) = some table := by
  have needs := needs_keyword "FROM" word?
  have others : ¬ Spells "FROM".toList "SELECT".toList ∧ ¬ Spells "FROM".toList column :=
    ⟨by simp [Spells, spells], field.notFrom⟩
  have reached := @searchWord?_selectText column table tail _ _ _ needs (by decide) (by decide)
    field.isColumn others
  have here : (keyword? "FROM" ("FROM".toList ++ ' ' :: (table ++ tail))).bind
      (fun rest => (blanks? rest).bind word?) = some (table, tail) := by
    rw [keyword?_from, Option.bind_some, blanks?_word isTable.isWord, Option.bind_some,
      isTable.word?_eq]
  rw [search?_here rfl here, Option.map_some] at reached
  obtain ⟨⟨front, found⟩, searched, rfl⟩ := Option.map_eq_some_iff.mp reached
  simp only [tableName?, bind]
  rw [searched]
  rfl

/-- Reads the text of a clause here. -/
def clause? (start : List Char → Option (List Char)) (stop : List Char → Option Unit)
    (s : List Char) : Option (List Char) := do
  let (text, _) ← cutAt? stop (← blanks? (← start s))
  some text

theorem clauseText?_eq_map (start : List Char → Option (List Char))
    (stop : List Char → Option Unit) (s : List Char) :
    clauseText? start stop s = (searchWord? (clause? start stop) s).map (·.2) := by
  unfold clauseText?
  change (searchWord? (clause? start stop) s).bind _ = _
  cases searchWord? (clause? start stop) s <;> rfl

theorem needs_clause (word : String) (stop : List Char → Option Unit) :
    Needs word (clause? (keyword? word) stop) :=
  needs_keyword word _

/-! ## The plan -/

theorem char?_blanks_absent {c : Char} (absent : c ∉ s) : char? c (skipBlanks s) = none := by
  cases left : skipBlanks s with
  | nil => rfl
  | cons d rest =>
    have kept : d ∈ skipBlanks s := left ▸ List.mem_cons_self
    have member : d ∈ s := (List.dropWhile_suffix isBlank).subset kept
    have other : d ≠ c := by
      rintro rfl
      exact absent member
    rw [char?, if_neg other]

theorem keyword?_subset {word : String} {rest : List Char} (read : keyword? word s = some rest) :
    rest ⊆ s := by
  obtain ⟨p, rfl, -⟩ := letters?_eq_some read
  exact List.subset_append_right p rest

theorem blanks?_subset {rest : List Char} (read : blanks? s = some rest) : rest ⊆ s := by
  cases s with
  | nil => cases read
  | cons c s =>
    simp only [blanks?, Option.ite_none_right_eq_some, Option.some.injEq] at read
    rw [← read.2]
    exact fun d member => List.mem_cons_of_mem c ((List.dropWhile_suffix isBlank).subset member)

/-- A call has a bracket behind its name, which a column has not. -/
theorem itemCall_column (noBracket : '(' ∉ column) : itemCall sql column = .ok none := by
  have noCount : countCall? column = none := by
    refine Option.bind_eq_none_iff.mpr fun rest read => ?_
    rw [char?_blanks_absent fun member => noBracket (keyword?_subset read member)]
    rfl
  have noFunction : functionCall? column = none := by
    refine Option.bind_eq_none_iff.mpr fun rest read => ?_
    obtain ⟨word, -, read⟩ := List.exists_of_findSome?_eq_some read
    simp only
    rw [char?_blanks_absent fun member => noBracket (keyword?_subset read member)]
    rfl
  simp only [itemCall, noCount, noFunction]

theorem readItems_column (isColumn : IsColumn column) :
    readItems sql none (splitList column) = .ok ([String.ofList column], none) := by
  have plain := isColumn.isPlain
  have noBracket : '(' ∉ column := fun member => by cases plain '(' member
  have trimmed := trim_word isColumn.isWord
  have nonempty : column.isEmpty = false := by simpa using isColumn.isWord.nonempty
  rw [splitList_plain plain, trimmed]
  simp [readItems, nonempty, itemCall_column noBracket, bind, Except.bind]

/-- What is read of a statement, stage by stage. -/
theorem extractSelect_of_stages {bare text fields : List Char} {top skip : Option Nat}
    {distinct : Bool} {clause : Option ExistsClause} {output : List String}
    {call : Option AggregateCall}
    (window : takeWindow sql ((clean sql.toList).take maxLength) = .ok (top, skip, s))
    (withoutDistinct : takeDistinct s = (distinct, bare))
    (withoutExists : takeExists bare = (clause, text)) (fieldsText : fieldsText? text = some fields)
    (tableName : tableName? text = some table)
    (items : readItems sql none (splitList fields) = .ok (output, call)) :
    extractSelect sql = .ok {
      table := String.ofList table
      fields := output
      predicate := (whereText? text).bind nonBlank?
      orderBy := (orderByText? text).bind nonBlank?
      top := top
      skip := skip
      distinct := distinct
      aggregate := call
      groupBy := (groupByText? text).map fun keys =>
        ⟨groupKeys keys, (havingText? text).bind nonBlank?⟩
      exists_ := clause } := by
  simp only [extractSelect, bind, Except.bind, window, withoutDistinct, withoutExists, fieldsText,
    tableName, items]
  rfl

/-- The EXISTS clause of a plan is the one that is cut out. -/
theorem exists_of_extractSelect {bare : List Char} {top skip : Option Nat} {distinct : Bool}
    {plan : SelectPlan}
    (window : takeWindow sql ((clean sql.toList).take maxLength) = .ok (top, skip, s))
    (withoutDistinct : takeDistinct s = (distinct, bare)) (read : extractSelect sql = .ok plan) :
    (takeExists bare).1 = plan.exists_ := by
  simp only [extractSelect, bind, Except.bind, window, withoutDistinct] at read
  split at read
  · split at read
    · split at read <;> cases read
      rfl
    · cases read
  · cases read

theorem extractSelect_selectText (field : IsField column) (isTable : IsTable table tail)
    (cleaned : clean sql.toList = selectText column table tail)
    (short : (selectText column table tail).length ≤ maxLength)
    (noExists : takeExists (selectText column table tail) = (none, selectText column table tail)) :
    extractSelect sql = .ok {
      table := String.ofList table
      fields := [String.ofList column]
      predicate := (whereText? (selectText column table tail)).bind nonBlank?
      orderBy := (orderByText? (selectText column table tail)).bind nonBlank?
      top := none
      skip := none
      distinct := false
      aggregate := none
      groupBy := (groupByText? (selectText column table tail)).map fun keys =>
        ⟨groupKeys keys, (havingText? (selectText column table tail)).bind nonBlank?⟩
      exists_ := none } := by
  have reclean : clean (selectText column table tail) = selectText column table tail := by
    rw [← cleaned, clean, words_clean, ← clean]
  have isWord := field.isColumn.isWord
  have window : takeWindow sql ((clean sql.toList).take maxLength) =
      .ok (none, none, selectText column table tail) := by
    rw [cleaned, List.take_of_length_le short]
    exact takeWindow_selectText isWord (modifier?_column field _) reclean
  exact extractSelect_of_stages window (takeDistinct_selectText isWord (wholeKeyword?_column field))
    noExists (fieldsText?_selectText isWord) (tableName?_selectText field isTable)
    (readItems_column field.isColumn)

/-! ## Nothing behind the table -/

theorem existsWord?_subset {negated : Bool} {rest : List Char}
    (read : existsWord? s = some (negated, rest)) : rest ⊆ s := by
  unfold existsWord? at read
  split at read
  · rename_i found
    cases read
    exact keyword?_subset found
  · obtain ⟨behind, read, same⟩ := Option.map_eq_some_iff.mp read
    cases same
    obtain ⟨afterNot, first, read⟩ := Option.bind_eq_some_iff.mp read
    obtain ⟨next, blank, read⟩ := Option.bind_eq_some_iff.mp read
    exact fun c member => keyword?_subset first (blanks?_subset blank (keyword?_subset read member))

/-- An EXISTS clause has brackets. -/
theorem takeExists_absent (noBracket : '(' ∉ s) : takeExists s = (none, s) := by
  have nowhere : searchWord? existsClause? s = none := by
    refine search?_eq_none (fun rest before suffix => atWordStart_eq_none ?_) none
    refine Option.bind_eq_none_iff.mpr fun ⟨negated, behind⟩ read => ?_
    have absent : '(' ∉ behind := fun member =>
      noBracket (suffix.subset (existsWord?_subset read member))
    simp only
    rw [char?_blanks_absent absent]
    rfl
  simp only [takeExists, nowhere]

theorem whereText?_bare (isColumn : IsColumn column) (notWhere : ¬ Spells "WHERE".toList column)
    (isTable : IsTable table []) : whereText? (selectText column table []) = none := by
  have fromColumn : IsColumn "FROM".toList := .named (by decide) (by decide)
  have others : ¬ Spells "WHERE".toList "SELECT".toList ∧ ¬ Spells "WHERE".toList "FROM".toList :=
    ⟨by simp [Spells, spells], by simp [Spells, spells]⟩
  have needs := needs_clause "WHERE"
    (fun r => atGroupBy? r <|> atHaving? r <|> atOrderBy? r <|> end? r)
  rw [whereText?, clauseText?_eq_map, searchWord?_selectText needs (by decide) (by decide) isColumn
      ⟨others.1, notWhere⟩,
    search?_column needs (by decide) (by decide) fromColumn others.2, List.append_nil,
    search?_end needs isTable.nonempty isTable.members]
  rfl

/-- With nothing behind the table there is no condition. -/
theorem extractSelect_bare (field : IsField column) (notWhere : ¬ Spells "WHERE".toList column)
    (isTable : IsTable table []) (cleaned : clean sql.toList = selectText column table [])
    (short : (selectText column table []).length ≤ maxLength) :
    ∃ plan, extractSelect sql = .ok plan ∧ plan.table = String.ofList table ∧
      plan.predicate = none := by
  have noBracket : '(' ∉ selectText column table [] := by
    have apart : '(' ∉ column ∧ '(' ∉ table :=
      ⟨fun member => (by cases field.isColumn.isPlain '(' member),
        fun member => (by cases isTable.members '(' member)⟩
    rw [selectText_eq]
    simp [apart]
  refine ⟨_, extractSelect_selectText field isTable cleaned short (takeExists_absent noBracket),
    rfl, ?_⟩
  rw [whereText?_bare field.isColumn notWhere isTable]
  rfl

end DocQuery.Select

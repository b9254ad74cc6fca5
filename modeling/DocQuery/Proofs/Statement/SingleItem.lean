import DocQuery.Proofs.Statement.ExistsCut
import DocQuery.Proofs.Statement.WrittenSelect

/-! # A SELECT of a single item

A SELECT of one item under a condition, in which no other clause is written. What is read of its
condition, and of an EXISTS clause in it, does not depend on the item.

* `IsItem` — the items: a column, the wildcard, a count of rows.
* `itemWords` — the words of the statement.
* `takeExists_item` — the EXISTS clause is cut out, and the statement has the same form afterwards.
* `extractSelect_item` — the plans of all items differ in what is selected only.
-/

namespace DocQuery.Select

open DocQuery.Text

variable {sql : String} {word : String} {item table w s : List Char} {ws : List (List Char)}
  {output : List String} {call : Option AggregateCall}

/-! ## Items -/

/-- A word that is read as one item of a field list. -/
structure IsItem (item : List Char) (output : List String) (call : Option AggregateCall) :
    Prop where
  isWord : IsWord item
  lacks : ∀ word ∈ "DISTINCT" :: clauseStarts, Lacks word item
  noModifier : ∀ s, modifier? (item ++ ' ' :: ("FROM".toList ++ s)) = none
  read : ∀ sql, readItems sql none (splitList item) = .ok (output, call)

theorem isItem_column {column : String} (isName : IsName column)
    (notKeyword : ∀ word ∈ "DISTINCT" :: clauseStarts, ¬ Spells word.toList column.toList) :
    IsItem column.toList [column] none where
  isWord := isName.isColumn.isWord
  lacks word listed := lacks_word isName.members (notKeyword word listed)
  noModifier s := modifier?_column ⟨isName.isColumn, notKeyword _ (by decide),
    notKeyword _ (by decide)⟩ s
  read sql := by
    have read : readItems sql none (splitList column.toList) =
        .ok ([String.ofList column.toList], none) := readItems_column isName.isColumn
    rwa [String.ofList_toList] at read

theorem isItem_all : IsItem ['*'] ["*"] none where
  isWord := IsColumn.all.isWord
  lacks := by decide
  noModifier s := modifier?_column isField_all s
  read _ := readItems_column .all

theorem isItem_count : IsItem "COUNT(*)".toList ["Count"] (some (.count "Count")) where
  isWord := ⟨by decide, by decide⟩
  lacks := by decide
  noModifier _ := rfl
  read _ := rfl

/-! ## Statements -/

/-- What follows the table: a condition, given by its words. -/
def conditionTail (ws : List (List Char)) : List Char :=
  if ws = [] then [] else ' ' :: ("WHERE".toList ++ ' ' :: unwords ws)

/-- The words of a SELECT of an item from a table, under a condition unless that has no words. -/
def itemWords (item table : List Char) (ws : List (List Char)) : List (List Char) :=
  ["SELECT".toList, item, "FROM".toList, table] ++ if ws = [] then [] else "WHERE".toList :: ws

theorem unwords_itemWords (item table : List Char) (ws : List (List Char)) :
    unwords (itemWords item table ws) = selectText item table (conditionTail ws) := by
  cases ws with
  | nil => simp [itemWords, conditionTail, selectText_eq, unwords]
  | cons w ws => simp [itemWords, conditionTail, selectText_eq, unwords]

/-- The statement up to its table. -/
def itemHead (item : List Char) : List Char :=
  "SELECT".toList ++ ' ' :: (item ++ ' ' :: "FROM".toList)

-- stated by hand: the equation that Lean makes of the definition computes the letters of SELECT
theorem itemHead_eq (item : List Char) :
    itemHead item = "SELECT".toList ++ ' ' :: (item ++ ' ' :: "FROM".toList) := rfl

theorem selectText_eq_itemHead (item table tail : List Char) :
    selectText item table tail = itemHead item ++ ' ' :: (table ++ tail) := by
  simp [selectText_eq, itemHead_eq]

namespace IsItem

variable (isItem : IsItem item output call)

include isItem

theorem lacks_itemHead (isStart : word ∈ clauseStarts) (notSelect : "SELECT" ≠ word)
    (notFrom : "FROM" ≠ word) : Lacks word (itemHead item) := by
  have isKeyword := isKeyword_of_mem_clauseWords word (mem_clauseWords isStart)
  have isFrom : Keyword "FROM" := ⟨"FROM".toList, by decide⟩
  rw [itemHead_eq, lacks_append_cons isKeyword rfl, lacks_append_cons isKeyword rfl]
  exact ⟨lacks_select (mem_clauseWords isStart) notSelect,
    isItem.lacks word (List.mem_cons_of_mem _ isStart),
    Keyword.lacks ⟨"FROM".toList, by decide⟩ (by decide) isKeyword notFrom⟩

end IsItem

theorem endsSolid_itemHead (item : List Char) : EndsSolid (itemHead item) :=
  .append (.cons (.append (.cons rfl)))

/-- The last word of the head is FROM. -/
theorem not_suffix_itemHead {p : List Char} (isSuffix : p <:+ itemHead item) :
    ¬ Spells "NOT".toList p := by
  have head : itemHead item = ("SELECT".toList ++ ' ' :: (item ++ [' ', 'F', 'R', 'O'])) ++ ['M'] := by
    simp [itemHead_eq]
  exact not_spells_not (head ▸ List.getLast?_concat) rfl isSuffix

/-! ## Searching behind the item -/

section table

variable {β : Type} {read : List Char → Option β} {next : List Char → Option β}
  (nonempty : table ≠ []) (members : ∀ c ∈ table, isWordChar c = true)

include nonempty members

/-- A search that fails at the table and at the WHERE behind it comes to the condition. -/
theorem searchWord?_table (atEnd : read [] = none) (atTable : read (table ++ conditionTail ws) = none)
    (atWhere : read ("WHERE".toList ++ ' ' :: unwords ws) = none) :
    searchWord? read (table ++ conditionTail ws) =
      (searchWord? read (unwords ws)).map fun (front, found) =>
        (table ++ ' ' :: ("WHERE".toList ++ ' ' :: front), found) := by
  cases ws with
  | nil =>
    obtain ⟨last, inside, passed⟩ := search?_word nonempty members none atTable
    have nothing : searchWord? read [] = none := by
      rw [searchWord?, search?, atWordStart_eq_none atEnd, Option.map_none]
    have behind : search? (atWordStart read) (some last) [] = none := by
      rw [search?, atWordStart_inside read inside, Option.map_none]
    rw [searchWord?, passed, unwords, nothing, conditionTail, if_pos rfl, behind]
    rfl
  | cons w ws =>
    rw [conditionTail, if_neg (List.cons_ne_nil w ws)] at *
    rw [searchWord?, search?_name nonempty members none atTable,
      search?_name (by decide) (by decide) (some ' ') atWhere, search?_start read rfl, Option.map_map]
    rfl

omit nonempty in
/-- A keyword that the table spells is followed by WHERE. -/
theorem bind_keyword?_table (upper : word.toList.all Char.isUpper = true)
    (notWhere : ∀ s, next ("WHERE".toList ++ ' ' :: s) = none) :
    ((keyword? word (table ++ conditionTail ws)).bind fun rest =>
      (blanks? rest).bind next) = none := by
  have unbroken : ∀ c ∈ table, isBlank c = false :=
    fun c member => isBlank_of_isWordChar (members c member)
  cases ws with
  | nil =>
    rw [conditionTail, if_pos rfl, List.append_nil, ← Option.bind_assoc,
      blanks?_keyword?_end word unbroken, Option.bind_none]
  | cons w ws =>
    rw [conditionTail, if_neg (List.cons_ne_nil w ws), keyword?, ← Option.bind_assoc,
      bind_blanks?_letters? (List.all_eq_true.mp upper) unbroken rfl]
    split
    · exact notWhere _
    · rfl

omit nonempty in
theorem existsClause?_table : existsClause? (table ++ conditionTail ws) = none := by
  have isKeyword : IsKeyword "EXISTS" := by decide
  by_cases spelled : Spells "EXISTS".toList table
  · -- the bracket is missing
    have word : existsWord? (table ++ conditionTail ws) = some (false, conditionTail ws) := by
      rw [existsWord?, keyword?, letters?_append spelled]
    have noBracket : char? '(' (skipBlanks (conditionTail ws)) = none := by
      cases ws <;> rfl
    simp only [existsClause?, bind, word, Option.bind_some, noBracket, Option.bind_none]
  · have ends : endsWord (conditionTail ws) = true := by
      cases ws <;> rfl
    refine existsClause?_fails ?_ (bind_keyword?_table members (by decide) fun s => rfl)
    have lacks := lacks_word members spelled
    rw [wholeKeyword?_append isKeyword ends, lacks_iff.mp lacks [] table rfl rfl, Option.map_none]

variable (isItem : IsItem item output call)

include isItem

theorem searchExists_item :
    searchWord? existsClause? (selectText item table (conditionTail ws)) =
      (searchWord? existsClause? (unwords ws)).map fun (front, found) =>
        (itemHead item ++ ' ' :: (table ++ ' ' :: ("WHERE".toList ++ ' ' :: front)), found) := by
  rw [selectText_eq_itemHead, searchExists_append
      (isItem.lacks_itemHead (by decide) (by decide) (by decide)) (endsSolid_itemHead item)
      fun p => not_suffix_itemHead,
    searchWord?_table nonempty members rfl (existsClause?_table members) rfl, Option.map_map]
  rfl

/-- A search for a keyword that fails at the table comes to the condition. -/
theorem searchWord?_item (needs : NeedsWord word read) (isStart : word ∈ clauseStarts)
    (notSelect : "SELECT" ≠ word) (notFrom : "FROM" ≠ word)
    (atTable : read (table ++ conditionTail ws) = none)
    (atWhere : read ("WHERE".toList ++ ' ' :: unwords ws) = none) :
    searchWord? read (selectText item table (conditionTail ws)) =
      (searchWord? read (unwords ws)).map fun (front, found) =>
        (itemHead item ++ ' ' :: (table ++ ' ' :: ("WHERE".toList ++ ' ' :: front)), found) := by
  have isKeyword := isKeyword_of_mem_clauseWords word (mem_clauseWords isStart)
  have atEnd : read [] = none := needs [] (wholeKeyword?_nil isKeyword rfl)
  rw [selectText_eq_itemHead,
    searchWord?_append needs (isItem.lacks_itemHead isStart notSelect notFrom) isKeyword,
    searchWord?_table nonempty members atEnd atTable atWhere, Option.map_map]
  rfl

/-- A search for a keyword fails, if it fails at the table and the condition lacks the keyword. -/
theorem searchWord?_item_eq_none (needs : NeedsWord word read) (isStart : word ∈ clauseStarts)
    (notSelect : "SELECT" ≠ word) (notFrom : "FROM" ≠ word)
    (atTable : read (table ++ conditionTail ws) = none)
    (atWhere : read ("WHERE".toList ++ ' ' :: unwords ws) = none)
    (lacks : Lacks word (unwords ws)) :
    searchWord? read (selectText item table (conditionTail ws)) = none := by
  rw [searchWord?_item nonempty members isItem needs isStart notSelect notFrom atTable atWhere,
    searchWord?_eq_none needs lacks, Option.map_none]

end table

/-! ## EXISTS clauses -/

/-- The words that end a condition, or begin another one. -/
def conditionStops : List String := ["WHERE", "GROUP", "HAVING", "ORDER"]

/-- What stands outside of the EXISTS clause that is found in a condition. -/
def outsideExists (condition : List Char) : List (List Char) :=
  match searchWord? existsClause? condition with
  | none => [condition]
  | some (front, _, back) => [front, back]

section item

variable (nonempty : table ≠ []) (members : ∀ c ∈ table, isWordChar c = true)
  (isItem : IsItem item output call)

include nonempty members isItem

theorem dropEmptyWhere_item (every : ∀ w ∈ ws, IsWord w)
    (lacks : ∀ word ∈ conditionStops, Lacks word (unwords ws)) :
    dropEmptyWhere (selectText item table (conditionTail ws)) =
      selectText item table (conditionTail ws) := by
  have needs : NeedsWord "WHERE" emptyWhere? := (needs_keyword "WHERE" _).needsWord
  have atTable : emptyWhere? (table ++ conditionTail ws) = none :=
    bind_keyword?_table members (by decide) fun s => rfl
  have next : blanks? (' ' :: unwords ws) = some (unwords ws) := by
    rw [blanks?, if_pos (show isBlank ' ' = true from rfl), skipBlanks_eq_self (first_unwords every)]
  have isWhere : keyword? "WHERE" ("WHERE".toList ++ ' ' :: unwords ws) =
      some (' ' :: unwords ws) := rfl
  have noClause : clauseAfterWhere? (unwords ws) = none :=
    clauseAfterWhere?_eq_none fun word listed =>
      lacks_iff.mp (lacks word (List.mem_cons_of_mem _ listed)) [] _ rfl rfl
  have atWhere : emptyWhere? ("WHERE".toList ++ ' ' :: unwords ws) = none := by
    simp only [emptyWhere?, bind, isWhere, Option.bind_some, next, noClause, Option.bind_none]
  have nowhere := searchWord?_item_eq_none nonempty members isItem needs (by decide) (by decide)
    (by decide) atTable atWhere (lacks _ (by decide))
  simp only [dropEmptyWhere, nowhere]

omit members in
theorem isWord_start (members : ∀ c ∈ table, isWordChar c = true) :
    ∀ v ∈ ["SELECT".toList, item, "FROM".toList, table], IsWord v := by
  have isTable : IsWord table :=
    ⟨nonempty, fun c member => isBlank_of_isWordChar (members c member)⟩
  simp only [List.mem_cons, List.not_mem_nil, or_false]
  rintro v (rfl | rfl | rfl | rfl)
  · exact ⟨by decide, by decide⟩
  · exact isItem.isWord
  · exact ⟨by decide, by decide⟩
  · exact isTable

theorem words_front (front : List Char) :
    words (itemHead item ++ ' ' :: (table ++ ' ' :: ("WHERE".toList ++ ' ' :: front))) =
      ["SELECT".toList, item, "FROM".toList, table] ++ "WHERE".toList :: words front := by
  have start := isWord_start nonempty isItem members
  have isWhere : IsWord "WHERE".toList := ⟨by decide, by decide⟩
  simp only [List.forall_mem_cons] at start
  obtain ⟨isSelect, isItem, isFrom, isTable, -⟩ := start
  have space (s : List Char) : words (' ' :: s) = words s := words_cons_blank rfl s
  have next (v s : List Char) (isWord : IsWord v) : words (v ++ ' ' :: s) = v :: words s := by
    rw [words_append isWord rfl, space]
  simp only [itemHead_eq, List.append_assoc, List.cons_append]
  rw [next _ _ isSelect, next _ _ isItem, next _ _ isFrom, next _ _ isTable, next _ _ isWhere]
  rfl

/-- A WHERE that has lost its condition goes. -/
theorem dropLastWhere_item (every : ∀ w ∈ ws, IsWord w) (avoids : Avoids "WHERE" (unwords ws)) :
    dropLastWhere (unwords (["SELECT".toList, item, "FROM".toList, table] ++ "WHERE".toList :: ws)) =
      selectText item table (conditionTail ws) := by
  have start := isWord_start nonempty isItem members
  have isWhere : IsWord "WHERE".toList := ⟨by decide, by decide⟩
  rw [← unwords_itemWords]
  rcases List.eq_nil_or_concat ws with rfl | ⟨others, last, rfl⟩
  · have whole := List.forall_mem_append.mpr ⟨start, List.forall_mem_singleton.mpr isWhere⟩
    rw [dropLastWhere_unwords whole (List.cons_ne_nil _ _), if_pos (by decide)]
    rfl
  · rw [List.concat_eq_append] at *
    have other : ¬ Spells "WHERE".toList last := by
      refine avoids last ?_
      rw [words_unwords every]
      exact List.mem_append_right others List.mem_cons_self
    have parts : ["SELECT".toList, item, "FROM".toList, table] ++
        "WHERE".toList :: (others ++ [last]) =
          (["SELECT".toList, item, "FROM".toList, table] ++ "WHERE".toList :: others) ++ [last] := by
      simp
    have whole : ∀ v ∈ (["SELECT".toList, item, "FROM".toList, table] ++
        "WHERE".toList :: others) ++ [last], IsWord v := by
      rw [← parts]
      exact List.forall_mem_append.mpr ⟨start, List.forall_mem_cons.mpr ⟨isWhere, every⟩⟩
    rw [parts, dropLastWhere_unwords whole (by simp), if_neg other, ← parts, itemWords,
      if_neg (by simp)]

omit isItem in
/-- The clause is cut out, with what is left of the condition behind the table. Neither of them
depends on the item, and the rest lacks what the condition lacks outside of the clause. -/
theorem takeExists_item (every : ∀ w ∈ ws, IsWord w)
    (outside : ∀ part ∈ outsideExists (unwords ws), ∀ word ∈ conditionStops, Lacks word part) :
    ∃ clause left, (∀ w ∈ left, IsWord w) ∧ (∀ word ∈ conditionStops, Lacks word (unwords left)) ∧
      ∀ item output call, IsItem item output call →
        takeExists (selectText item table (conditionTail ws)) =
          (clause, selectText item table (conditionTail left)) := by
  cases searched : searchWord? existsClause? (unwords ws) with
  | none =>
    rw [outsideExists, searched] at outside
    refine ⟨none, ws, every, outside _ (by simp), fun item output call isItem => ?_⟩
    have found : searchWord? existsClause? (selectText item table (conditionTail ws)) = _ :=
      searchExists_item nonempty members isItem
    simp only [takeExists, found, searched, Option.map_none]
  | some cut =>
    obtain ⟨front, clause, back⟩ := cut
    rw [outsideExists, searched] at outside
    obtain ⟨lacksFront, lacksBack⟩ : (∀ word ∈ conditionStops, Lacks word front) ∧
        ∀ word ∈ conditionStops, Lacks word back := by simpa using outside
    obtain ⟨left, fromParts, closed⟩ := words_closeCut_condition front back
    have areWords : ∀ v ∈ left, IsWord v := fun v member =>
      (fromParts v member).elim isWord_of_mem_words isWord_of_mem_words
    have lacks : ∀ word ∈ conditionStops, Lacks word (unwords left) := by
      intro word listed
      have isKeyword : IsKeyword word := by
        revert word
        decide
      rw [lacks_words_iff isKeyword, words_unwords areWords]
      intro v member
      rcases fromParts v member with inFront | inBack
      · exact (lacks_words_iff isKeyword).mp (lacksFront word listed) v inFront
      · exact (lacks_words_iff isKeyword).mp (lacksBack word listed) v inBack
    refine ⟨some clause, left, areWords, lacks, fun item output call isItem => ?_⟩
    have found : searchWord? existsClause? (selectText item table (conditionTail ws)) = _ :=
      searchExists_item nonempty members isItem
    have cut := closed _ _ _ (words_front nonempty members isItem front) (List.cons_ne_nil _ _)
      (by decide)
    have avoids := (lacks "WHERE" (by decide)).avoids (by decide)
    simp only [takeExists, found, searched, Option.map_some, clean, cut,
      dropLastWhere_item nonempty members isItem areWords avoids,
      dropEmptyWhere_item nonempty members isItem areWords lacks]

end item

/-! ## The plan -/

namespace IsItem

variable (isItem : IsItem item output call)

include isItem

theorem takeWindow_item
    (cleaned : clean (selectText item table w) = selectText item table w) :
    takeWindow sql (selectText item table w) = .ok (none, none, selectText item table w) :=
  takeWindow_selectText isItem.isWord (isItem.noModifier _) cleaned

theorem takeDistinct_item : takeDistinct (selectText item table w) =
    (false, selectText item table w) := by
  refine takeDistinct_selectText isItem.isWord fun s => ?_
  have lacks := isItem.lacks "DISTINCT" List.mem_cons_self
  rw [wholeKeyword?_append (by decide) rfl, lacks_iff.mp lacks [] item rfl rfl, Option.map_none]

theorem tableName?_item (isTable : IsTable table w) :
    tableName? (selectText item table w) = some table :=
  tableName?_here (isItem.lacks "FROM" (by decide)) ⟨"FROM".toList, by decide⟩ isTable

/-- The condition is looked for behind the item. -/
theorem whereText?_item :
    whereText? (selectText item table w) = whereText? (table ++ w) := by
  have needs := needsWord_clause "WHERE" conditionEnds?
  have lacks : Lacks "WHERE" (itemHead item) :=
    isItem.lacks_itemHead (by decide) (by decide) (by decide)
  change clauseText? (keyword? "WHERE") conditionEnds? _ =
    clauseText? (keyword? "WHERE") conditionEnds? _
  rw [selectText_eq_itemHead, clauseText?_eq_map, clauseText?_eq_map,
    searchWord?_append needs lacks (by decide), Option.map_map]
  rfl

/-- A later clause is looked for in the condition. -/
theorem clauseText?_item_eq (nonempty : table ≠ []) (members : ∀ c ∈ table, isWordChar c = true)
    {first second : String} (stop : List Char → Option Unit) (isStart : first ∈ clauseStarts)
    (notSelect : "SELECT" ≠ first) (notFrom : "FROM" ≠ first)
    (notWhere : ∀ s, keywords? first second ("WHERE".toList ++ ' ' :: s) = none)
    (notBehind : ∀ s, keyword? second ("WHERE".toList ++ ' ' :: s) = none) :
    clauseText? (keywords? first second) stop (selectText item table (conditionTail ws)) =
      clauseText? (keywords? first second) stop (unwords ws) := by
  have isKeyword := isKeyword_of_mem_clauseWords first (mem_clauseWords isStart)
  have atTable : keywords? first second (table ++ conditionTail ws) = none :=
    bind_keyword?_table members (List.all_eq_true.mpr isKeyword.upper) notBehind
  have clauseAtTable : clause? (keywords? first second) stop (table ++ conditionTail ws) = none := by
    simp only [clause?, atTable, bind, Option.bind_none]
  have clauseAtWhere : clause? (keywords? first second) stop
      ("WHERE".toList ++ ' ' :: unwords ws) = none := by
    simp only [clause?, notWhere, bind, Option.bind_none]
  rw [clauseText?_eq_map, clauseText?_eq_map, searchWord?_item nonempty members isItem
    (needsWord_clauses first second stop) isStart notSelect notFrom clauseAtTable clauseAtWhere,
    Option.map_map]
  rfl

/-- No later clause begins behind the table. -/
theorem clauseText?_item (nonempty : table ≠ []) (members : ∀ c ∈ table, isWordChar c = true)
    {first second : String} {stop : List Char → Option Unit} (isStart : first ∈ clauseStarts)
    (notSelect : "SELECT" ≠ first) (notFrom : "FROM" ≠ first)
    (notWhere : ∀ s, keywords? first second ("WHERE".toList ++ ' ' :: s) = none)
    (notBehind : ∀ s, keyword? second ("WHERE".toList ++ ' ' :: s) = none)
    (lacks : Lacks first (unwords ws)) :
    clauseText? (keywords? first second) stop (selectText item table (conditionTail ws)) = none := by
  rw [isItem.clauseText?_item_eq nonempty members stop isStart notSelect notFrom notWhere notBehind,
    clauseText?_absent (needsWord_clauses first second stop) lacks]

end IsItem

/-- The plans of all items under one condition differ in what is selected only. -/
theorem extractSelect_item (nonempty : table ≠ []) (members : ∀ c ∈ table, isWordChar c = true)
    (every : ∀ w ∈ ws, IsWord w)
    (outside : ∀ part ∈ outsideExists (unwords ws), ∀ word ∈ conditionStops, Lacks word part) :
    ∃ plan : SelectPlan, plan.table = String.ofList table ∧ plan.orderBy = none ∧
      plan.top = none ∧ plan.skip = none ∧ plan.distinct = false ∧ plan.groupBy = none ∧
      ∀ {item output call sql}, IsItem item output call → words sql.toList = itemWords item table ws →
        (unwords (itemWords item table ws)).length ≤ maxLength →
        extractSelect sql = .ok { plan with fields := output, aggregate := call } := by
  obtain ⟨clause, left, areWords, lacks, cutOut⟩ := takeExists_item nonempty members every outside
  refine ⟨⟨String.ofList table, [], (whereText? (table ++ conditionTail left)).bind nonBlank?, none,
    none, none, false, none, none, clause⟩, rfl, rfl, rfl, rfl, rfl, rfl,
    fun {item output call sql} isItem written short => ?_⟩
  have cleaned : clean sql.toList = selectText item table (conditionTail ws) := by
    rw [clean, written, unwords_itemWords]
  rw [unwords_itemWords] at short
  have reclean : clean (selectText item table (conditionTail ws)) =
      selectText item table (conditionTail ws) := by
    rw [← cleaned, clean, words_clean, ← clean]
  have window : takeWindow sql ((clean sql.toList).take maxLength) =
      .ok (none, none, selectText item table (conditionTail ws)) := by
    rw [cleaned, List.take_of_length_le short]
    exact isItem.takeWindow_item reclean
  have isTable : IsTable table (conditionTail left) := ⟨nonempty, members, by cases left <;> rfl⟩
  have noGroups : groupByText? (selectText item table (conditionTail left)) = none :=
    isItem.clauseText?_item nonempty members (by decide) (by decide) (by decide) (fun s => rfl)
      (fun s => rfl) (lacks "GROUP" (by decide))
  have noOrder : orderByText? (selectText item table (conditionTail left)) = none :=
    isItem.clauseText?_item nonempty members (by decide) (by decide) (by decide) (fun s => rfl)
      (fun s => rfl) (lacks "ORDER" (by decide))
  rw [extractSelect_of_stages window isItem.takeDistinct_item (cutOut _ _ _ isItem)
    (fieldsText?_selectText isItem.isWord) (isItem.tableName?_item isTable) (isItem.read sql),
    isItem.whereText?_item, noGroups, noOrder]
  rfl

end DocQuery.Select

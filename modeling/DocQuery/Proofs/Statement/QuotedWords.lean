import DocQuery.Proofs.Statement.ClausePhrases
import DocQuery.Proofs.Statement.SingleItem
import DocQuery.Proofs.Statement.WhereClause
import DocQuery.Proofs.Statement.WrittenUpdate

/-! # Words inside quotes

A SELECT and an UPDATE with one string in quotes. Clauses are looked for in the whole statement, so
words of the string are taken for clauses; which ones, and where they have to stand, is not the same
for all clauses.

* `HoldsNoClause` — a text in which no clause is found.
* `extractSelect_quoted_iff`, `extractUpdate_quoted_iff` — what is read with a text in quotes.
* `quoted_words_iff` — when the statements are read as they are meant.
* `quoted_words_can_be_clauses` — strings that are taken for clauses.
-/

namespace DocQuery

open DocQuery.Text Condition

namespace Select

variable {sql first second word column : String} {item table f v w s : List Char}
  {ws : List (List Char)} {c mark : Char} {stop : List Char → Option Unit}

/-! ## The condition -/

theorem isTidy_comparison (isWord : IsWord f) (tidy : IsTidy v) : IsTidy (pathComparison f v) := by
  have sign : IsTidy (['='] ++ ' ' :: v) := (isTidy_char rfl).append_space tidy
  exact isWord.isTidy.append_space sign

section comparison

variable (isName : IsName column)
  (other : ∀ word ∈ clauseStarts, ¬ Spells word.toList column.toList)

include isName other

theorem lacks_comparison (isStart : word ∈ clauseStarts) :
    Lacks word (column.toList ++ [' ', '=']) := by
  have isKeyword := isKeyword_of_mem_clauseWords word (mem_clauseWords isStart)
  rw [lacks_append_cons isKeyword rfl, lacks_blank isKeyword rfl]
  exact ⟨lacks_word isName.members (other word isStart), lacks_nil isKeyword⟩

/-- A clause is looked for in the value. -/
theorem clauseText?_comparison (isStart : first ∈ clauseStarts) (v : List Char) :
    clauseText? (keywords? first second) stop (pathComparison column.toList v) =
      clauseText? (keywords? first second) stop v := by
  have isKeyword := isKeyword_of_mem_clauseWords first (mem_clauseWords isStart)
  have parts : pathComparison column.toList v = (column.toList ++ [' ', '=']) ++ ' ' :: v := by
    simp [pathComparison]
  rw [parts, clauseText?_eq_map, clauseText?_eq_map,
    searchWord?_append (needsWord_clauses first second stop)
      (lacks_comparison isName other isStart) isKeyword, Option.map_map]
  rfl

theorem searchExists_comparison (v : List Char) :
    searchWord? existsClause? (pathComparison column.toList v) = none ↔
      searchWord? existsClause? v = none := by
  have parts : pathComparison column.toList v = (column.toList ++ [' ', '=']) ++ ' ' :: v := by
    simp [pathComparison]
  have last : (column.toList ++ [' ', '=']).getLast? = some '=' := by simp
  rw [parts, searchExists_append (lacks_comparison isName other (by decide)) (.append rfl)
    fun p => not_spells_not last rfl, Option.map_eq_none_iff]

end comparison

/-- Only blanks at its end are not given of a text that begins with none. -/
theorem isPrefix_of_nonBlank? {text : String} (solid : isBlank c = false)
    (found : nonBlank? (c :: w) = some text) : text.toList <+: c :: w := by
  obtain ⟨kept, isPrefix, -, trimmed⟩ := trim_append (s := [c]) (by simp [solid])
    (by simp [EndsSolid, solid]) w
  rw [List.singleton_append, List.singleton_append] at trimmed
  rw [nonBlank?, trimmed, Option.some.injEq] at found
  rw [← found, String.toList_ofList]
  exact (List.prefix_cons_inj c).mpr isPrefix

/-- A condition is read to its end exactly if it is not cut. -/
theorem nonBlank?_cut_iff {condition text : List Char} {answer : Unit} (tidy : IsTidy condition)
    (cut : cutAt? stop condition = some (text, answer)) :
    nonBlank? text = some (String.ofList condition) ↔
      cutAt? stop condition = some (condition, ()) := by
  obtain ⟨c, more, back, rfl, same, -⟩ := cutAt?_eq_some cut
  have solid : isBlank c = false := by simpa [same] using tidy.first
  rw [cut, Option.some.injEq, Prod.mk.injEq, and_iff_left rfl]
  constructor
  · intro found
    have isPrefix := isPrefix_of_nonBlank? solid found
    rw [String.toList_ofList] at isPrefix
    exact List.IsPrefix.eq_of_length_le ⟨back, same.symm⟩ isPrefix.length_le
  · intro whole
    rw [whole]
    exact SpacedText.nonBlank?_text ⟨condition, tidy.ne_nil, tidy.cleaned⟩

/-! ## SELECT -/

/-- The condition behind a table is found, unless the table is taken for the keyword. -/
theorem whereText?_table_iff (isTable : IsTable table [])
    (notWhere : ¬ Spells "WHERE".toList f) (path : path? f = some (f, [])) (tidy : IsTidy v)
    (notClause : ∀ word ∈ ["GROUP", "BY", "HAVING", "ORDER"], keyword? word v = none) :
    (whereText? (table ++ ' ' :: ("WHERE".toList ++ ' ' :: pathComparison f v))).bind nonBlank? =
        some (String.ofList (pathComparison f v)) ↔
      ¬ Spells "WHERE".toList table ∧ cutAt? conditionEnds? v = some (v, ()) := by
  have isWord := isWord_of_path? path
  have whole := isTidy_comparison isWord tidy
  by_cases isWhere : Spells "WHERE".toList table
  · -- what is read begins with the other WHERE
    refine iff_of_false (fun found => ?_) fun both => both.1 isWhere
    have behind : blanks? (' ' :: ("WHERE".toList ++ ' ' :: pathComparison f v)) =
        some ("WHERE".toList ++ ' ' :: pathComparison f v) :=
      IsTidy.blanks?_append (IsWord.isTidy ⟨by decide, by decide⟩) _
    obtain ⟨c, text, back, answer, parts, cut⟩ :=
      cutAt?_isSome (w := "WHERE".toList ++ ' ' :: pathComparison f v) (by simp)
        (by simpa using whole.newline_notMem) (show conditionEnds? [] = some () from rfl)
    rw [List.append_nil] at cut
    have here : clause? (keyword? "WHERE") conditionEnds?
        (table ++ ' ' :: ("WHERE".toList ++ ' ' :: pathComparison f v)) = some (c :: text) := by
      simp only [clause?, keyword?, letters?_append isWhere, bind, Option.bind_some, behind, cut]
    have read : whereText? (table ++ ' ' :: ("WHERE".toList ++ ' ' :: pathComparison f v)) =
        some (c :: text) := by
      change clauseText? (keyword? "WHERE") conditionEnds? _ = _
      rw [clauseText?_eq_map, searchWord?, search?_here rfl here]
      rfl
    rw [read, Option.bind_some] at found
    obtain rfl : 'W' = c := (List.cons.inj parts).1
    obtain ⟨lost, kept⟩ := isPrefix_of_nonBlank? rfl found
    rw [String.toList_ofList] at kept
    have isKeyword : IsWord "WHERE".toList := ⟨by decide, by decide⟩
    have twice := congrArg words (parts.trans (congrArg (· ++ back) kept.symm))
    rw [words_append isKeyword rfl, pathComparison, List.append_assoc, List.append_assoc,
      words_append isWord rfl] at twice
    exact notWhere ((List.cons.inj twice).1 ▸ by decide)
  · rw [and_iff_right isWhere]
    obtain ⟨c, text, back, answer, parts, cut⟩ := cutAt?_isSome whole.ne_nil whole.newline_notMem
      (show conditionEnds? [] = some () from rfl)
    rw [List.append_nil] at cut
    have read : whereText? (table ++ ' ' :: ("WHERE".toList ++ ' ' :: pathComparison f v)) =
        some (c :: text) := by
      rw [← isItem_all.whereText?_item]
      exact whereText?_conditionText isTable isWhere whole.first cut
    rw [read, Option.bind_some, nonBlank?_cut_iff whole cut,
      cutAt?_pathComparison path tidy.first notClause tidy.ends, Option.map_eq_some_iff]
    constructor
    · rintro ⟨⟨front, found⟩, cut, same⟩
      obtain rfl : front = v := by simpa [pathComparison] using same
      exact cut
    · exact fun cut => ⟨(v, ()), cut, rfl⟩

theorem takeExists_eq_none_iff :
    (takeExists s).1 = none ↔ searchWord? existsClause? s = none := by
  unfold takeExists
  split
  · rename_i nowhere
    simp [nowhere]
  · rename_i found
    simp [found]

/-- A SELECT of an item has no other clause than its condition exactly if no other one is found. -/
theorem extractSelect_item_iff {output : List String} {call : Option AggregateCall}
    {predicate : Option String} (isItem : IsItem item output call) (isTable : IsTable table w)
    (written : clean sql.toList = selectText item table w)
    (short : (selectText item table w).length ≤ maxLength) :
    extractSelect sql = .ok ⟨String.ofList table, output, predicate, none, none, none, false, call,
        none, none⟩ ↔
      searchWord? existsClause? (selectText item table w) = none ∧
        (whereText? (selectText item table w)).bind nonBlank? = predicate ∧
        groupByText? (selectText item table w) = none ∧
        orderByText? (selectText item table w) = none := by
  have window : takeWindow sql ((clean sql.toList).take maxLength) =
      .ok (none, none, selectText item table w) := by
    rw [written, List.take_of_length_le short]
    refine isItem.takeWindow_item ?_
    rw [← written, clean, words_clean, ← clean]
  have noExists (nowhere : searchWord? existsClause? (selectText item table w) = none) :
      takeExists (selectText item table w) = (none, selectText item table w) := by
    simp only [takeExists, nowhere]
  have read (nowhere : searchWord? existsClause? (selectText item table w) = none) :=
    extractSelect_of_stages window isItem.takeDistinct_item (noExists nowhere)
      (fieldsText?_selectText isItem.isWord) (isItem.tableName?_item isTable) (isItem.read sql)
  constructor
  · intro good
    have nowhere :=
      takeExists_eq_none_iff.mp (exists_of_extractSelect window isItem.takeDistinct_item good)
    have same := Except.ok.inj ((read nowhere).symm.trans good)
    simp only [SelectPlan.mk.injEq, Option.map_eq_none_iff] at same
    obtain ⟨-, -, isPredicate, noOrder, -, -, -, -, noGroups, -⟩ := same
    refine ⟨nowhere, isPredicate, noGroups, ?_⟩
    cases found : orderByText? (selectText item table w) with
    | none => rfl
    | some text => exact absurd (by simpa [found] using noOrder) (nonBlank?_clauseText found)
  · rintro ⟨nowhere, isPredicate, noGroups, noOrder⟩
    rw [read nowhere, isPredicate, noGroups, noOrder]
    rfl

/-- Nothing that is taken for a clause stands in the text. -/
structure HoldsNoClause (s : List Char) : Prop where
  noExists : searchWord? existsClause? s = none
  noGrouping : ¬ HoldsPhrase "GROUP" "BY" s
  noHaving : Avoids "HAVING" s
  noOrder : ¬ HoldsPhrase "ORDER" "BY" s

instance (s : List Char) : Decidable (HoldsNoClause s) :=
  have isBy : IsKeyword "BY" := by decide
  decidable_of_iff (searchWord? existsClause? s = none ∧
      searchWord? (fun r => (keywords? "GROUP" "BY" r).bind blanks?) s = none ∧
      (∀ w ∈ words s, ¬ Spells "HAVING".toList w) ∧
      searchWord? (fun r => (keywords? "ORDER" "BY" r).bind blanks?) s = none)
    ⟨fun ⟨noExists, noGrouping, noHaving, noOrder⟩ => ⟨noExists,
        (not_holdsPhrase_iff isBy).mpr noGrouping, noHaving,
        (not_holdsPhrase_iff isBy).mpr noOrder⟩,
      fun ⟨noExists, noGrouping, noHaving, noOrder⟩ => ⟨noExists,
        (not_holdsPhrase_iff isBy).mp noGrouping, noHaving,
        (not_holdsPhrase_iff isBy).mp noOrder⟩⟩

section quoted

variable {output : List String} {call : Option AggregateCall} (isItem : IsItem item output call)
  (isTable : IsTable table []) (isName : IsName column)
  (other : ∀ word ∈ clauseStarts, ¬ Spells word.toList column.toList)

include isItem isTable isName other

/-- A later clause is found exactly if its keywords stand in the value. -/
theorem clauseText?_item_comparison (later : first = "GROUP" ∨ first = "ORDER") (tidy : IsTidy v)
    (cleaned : unwords ws = pathComparison column.toList v) (atEnd : stop [] = some ()) :
    clauseText? (keywords? first "BY") stop (selectText item table (conditionTail ws)) = none ↔
      ¬ HoldsPhrase first "BY" v := by
  rcases later with rfl | rfl <;>
    rw [isItem.clauseText?_item_eq isTable.nonempty isTable.members stop (by decide) (by decide)
      (by decide) (fun s => rfl) (fun s => rfl), cleaned,
      clauseText?_comparison isName other (by decide),
      clauseText?_eq_none_iff (by decide) tidy.ends tidy.newline_notMem atEnd]

/-- A SELECT of an item under one condition on a text in quotes. -/
theorem extractSelect_quoted_iff (isMark : isQuote mark = true)
    (single : IsSingleSpaced s)
    (written : sql.toList = selectText item table
      (' ' :: ("WHERE".toList ++ ' ' :: pathComparison column.toList (mark :: (s ++ [mark])))))
    (short : sql.length ≤ maxLength) :
    extractSelect sql = .ok ⟨String.ofList table, output,
        some (String.ofList (pathComparison column.toList (mark :: (s ++ [mark])))), none, none, none,
        false, call, none, none⟩ ↔
      ¬ Spells "WHERE".toList table ∧ HoldsNoClause (mark :: (s ++ [mark])) := by
  have tidy := isTidy_quoted isMark single
  have notClause : ∀ word ∈ ["GROUP", "BY", "HAVING", "ORDER"],
      keyword? word (mark :: (s ++ [mark])) = none := by
    simp only [isQuote, Bool.or_eq_true, beq_iff_eq] at isMark
    rcases isMark with rfl | rfl <;> simp [keyword?, letters?, spells]
  have wholeIff := cutAt?_quoted_iff isMark tidy.newline_notMem
  generalize mark :: (s ++ [mark]) = v at written tidy notClause wholeIff ⊢
  -- the statement in terms of the words of its condition
  have whole := isTidy_comparison isName.isColumn.isWord tidy
  obtain ⟨ws, cleaned, every, some_⟩ :
      ∃ ws, unwords ws = pathComparison column.toList v ∧ (∀ w ∈ ws, IsWord w) ∧ ws ≠ [] :=
    ⟨words (pathComparison column.toList v), whole.cleaned,
      fun w member => isWord_of_mem_words member, whole.words_ne_nil⟩
  have tail : conditionTail ws =
      ' ' :: ("WHERE".toList ++ ' ' :: pathComparison column.toList v) := by
    rw [conditionTail, if_neg some_, cleaned]
  have areWords : ∀ w ∈ itemWords item table ws, IsWord w := by
    rw [itemWords, if_neg some_]
    exact List.forall_mem_append.mpr ⟨isWord_start isTable.nonempty isItem isTable.members,
      List.forall_mem_cons.mpr ⟨⟨by decide, by decide⟩, every⟩⟩
  rw [← tail] at written
  have written' : clean sql.toList = selectText item table (conditionTail ws) := by
    rw [written, ← unwords_itemWords, clean_unwords areWords]
  rw [extractSelect_item_iff isItem ⟨isTable.nonempty, isTable.members, tail ▸ rfl⟩ written'
      (by rwa [← written, String.length_toList]),
    searchExists_item isTable.nonempty isTable.members isItem, Option.map_eq_none_iff, cleaned,
    searchExists_comparison isName other, isItem.whereText?_item, tail,
    whereText?_table_iff isTable (other _ (by decide)) (path?_name isName) tidy notClause, ← tail,
    groupByText?, clauseText?_item_comparison isItem isTable isName other (.inl rfl) tidy cleaned rfl,
    orderByText?, clauseText?_item_comparison isItem isTable isName other (.inr rfl) tidy cleaned rfl]
  constructor
  · rintro ⟨noExists, ⟨notWhere, cut⟩, noGrouping, noOrder⟩
    exact ⟨notWhere, noExists, noGrouping, (wholeIff noGrouping noOrder).mp cut, noOrder⟩
  · rintro ⟨notWhere, noExists, noGrouping, noHaving, noOrder⟩
    exact ⟨noExists, ⟨notWhere, (wholeIff noGrouping noOrder).mpr noHaving⟩, noGrouping, noOrder⟩

end quoted

end Select

namespace Write

variable {sql column : String} {table v s : List Char} {mark c : Char}

/-! ## UPDATE -/

/-- No comma cuts before quotes are closed. -/
theorem listPieces_unclosed (absent : mark ∉ s) (depth : Nat) (c : Char) :
    listPieces (.inside mark) depth (s ++ [c]) = [s ++ [c]] ∧
      listPieces (.escaping mark) depth (s ++ [c]) = [s ++ [c]] := by
  induction s with
  | nil => exact ⟨by simp [listPieces, consPiece], by simp [listPieces, consPiece]⟩
  | cons d s ih =>
    rw [List.mem_cons, not_or] at absent
    obtain ⟨inside, escaping⟩ := ih absent.2
    have next : Quoting.next (.inside mark) d = .inside mark ∨
        Quoting.next (.inside mark) d = .escaping mark := by
      by_cases backslash : d = '\\'
      · exact .inr (by simp [Quoting.next, backslash])
      · exact .inl (by simp [Quoting.next, backslash, Ne.symm absent.1])
    constructor
    · rcases next with stays | escapes
      · simp [listPieces, stays, inside, consPiece]
      · simp [listPieces, escapes, escaping, consPiece]
    · simp [listPieces, Quoting.next, inside, consPiece]

/-- An assignment of a text in quotes is one item of a list. -/
theorem splitList_quoted (isName : IsName column) (isMark : isQuote mark = true)
    (absent : mark ∉ s) :
    splitList (pathComparison column.toList (mark :: (s ++ [mark]))) =
      [pathComparison column.toList (mark :: (s ++ [mark]))] := by
  have solid := not_isBlank_of_isQuote isMark
  have plain : ∀ c ∈ column.toList ++ [' ', '=', ' '], isPlain c = true :=
    List.forall_mem_append.mpr ⟨isName.isColumn.isPlain, by decide⟩
  have notComma : mark ≠ ',' := by
    rintro rfl
    cases isMark
  have opens : Quoting.next .outside mark = .inside mark := by simp [Quoting.next, isMark]
  have shields : nextDepth 0 mark = 0 := by
    simp only [isQuote, Bool.or_eq_true, beq_iff_eq] at isMark
    rcases isMark with rfl | rfl <;> rfl
  have value : listPieces .outside 0 (mark :: (s ++ [mark])) = [mark :: (s ++ [mark])] := by
    simp [listPieces, notComma, opens, shields, (listPieces_unclosed absent 0 mark).1, consPiece]
  have ends : EndsSolid (mark :: (s ++ [mark])) := .cons (.append (by simp [EndsSolid, solid]))
  have trimmed := trim_pathComparison (path?_name isName) ends
  rw [splitList, pathComparison, ← List.append_assoc, listPieces_plain plain, value, prepend,
    List.map_singleton, List.append_assoc, ← pathComparison, trimmed]

theorem readAssignments_quoted (isName : IsName column) (isMark : isQuote mark = true)
    (oneLine : '\n' ∉ mark :: (s ++ [mark])) :
    readAssignments [pathComparison column.toList (mark :: (s ++ [mark]))] [] =
      .ok [(column, .string (String.ofList s))] := by
  have solid := not_isBlank_of_isQuote isMark
  have path := isPath_name isName ('=' :: ' ' :: (mark :: (s ++ [mark])))
  have sign : char? '=' (skipBlanks (' ' :: '=' :: ' ' :: (mark :: (s ++ [mark])))) =
      some (' ' :: (mark :: (s ++ [mark]))) := rfl
  have value : skipBlanks (' ' :: (mark :: (s ++ [mark]))) = mark :: (s ++ [mark]) := by
    simp [skipBlanks, solid, show isBlank ' ' = true from rfl]
  have read : assignment? (pathComparison column.toList (mark :: (s ++ [mark]))) =
      some (column.toList, mark :: (s ++ [mark])) := by
    have line : line? (mark :: (s ++ [mark])) = some (mark :: (s ++ [mark])) := by
      rw [line?, if_neg (by simpa using oneLine)]
    change assignment? (column.toList ++ ' ' :: ('=' :: ' ' :: (mark :: (s ++ [mark])))) = _
    simp only [assignment?, path, bind, Option.bind_some, sign, value, line]
  rw [readAssignments, read]
  simp only [readAssignments, Literal.parse_quoted isMark, String.ofList_toList]
  rfl

theorem words_comparison (isName : IsName column) (v : List Char) :
    words (pathComparison column.toList v) = column.toList :: ['='] :: words v := by
  have sign : IsWord ['='] := ⟨by decide, by decide⟩
  change words (column.toList ++ ' ' :: (['='] ++ ' ' :: v)) = _
  rw [words_append isName.isColumn.isWord rfl, words_cons_blank rfl, words_append sign rfl,
    words_cons_blank rfl]

/-- An UPDATE that sets one column to a text in quotes. -/
theorem extractUpdate_quoted_iff (isTable : Select.IsTable table []) (isName : IsName column)
    (notWhere : ¬ Spells "WHERE".toList column.toList) (isMark : isQuote mark = true)
    (absent : mark ∉ s) (single : IsSingleSpaced s)
    (written : sql.toList = "UPDATE".toList ++ ' ' :: (table ++ ' ' :: ("SET".toList ++ ' ' ::
      pathComparison column.toList (mark :: (s ++ [mark]))))) :
    extractUpdate sql =
        .ok ⟨String.ofList table, none, [(column, .string (String.ofList s))]⟩ ↔
      Avoids "WHERE" (mark :: (s ++ [mark])) := by
  have tidy := isTidy_quoted isMark single
  have whole := Select.isTidy_comparison isName.isColumn.isWord tidy
  have isUpdate : IsWord "UPDATE".toList := ⟨by decide, by decide⟩
  have isSet : IsWord "SET".toList := ⟨by decide, by decide⟩
  have inWords := words_comparison isName (mark :: (s ++ [mark]))
  constructor
  · intro good
    by_contra holds
    obtain ⟨front, w, back, same, spelled, more⟩ :=
      Select.words_of_not_avoids (by decide) isMark holds
    obtain ⟨u, set, first, rest, parts, predicate⟩ := extractUpdate_predicate good
    have all : words sql.toList = "UPDATE".toList :: table :: "SET".toList :: column.toList ::
        ['='] :: (front ++ w :: back) := by
      rw [written, words_append isUpdate rfl, words_cons_blank rfl, words_append isTable.isWord rfl,
        words_cons_blank rfl, words_append isSet rfl, words_cons_blank rfl, inWords, same]
    obtain rfl : rest = ['='] :: (front ++ w :: back) := by
      rw [all] at parts
      simp only [List.cons.injEq] at parts
      exact parts.2.2.2.2.symm
    have found : HasCondition (['='] :: (front ++ w :: back)) :=
      ⟨['='] :: front, w, back, rfl, spells_where_iff.mp spelled, more⟩
    rw [← isSome_conditionWords?] at found
    simp only [eq_comm (a := none), Option.map_eq_none_iff] at predicate
    simp [predicate] at found
  · intro avoids
    have avoidsAll : Avoids "WHERE" (pathComparison column.toList (mark :: (s ++ [mark]))) := by
      rw [Avoids, inWords]
      exact List.forall_mem_cons.mpr ⟨notWhere, List.forall_mem_cons.mpr ⟨by decide, avoids⟩⟩
    have cleaned : clean sql.toList = sql.toList := by
      rw [written]
      exact (isUpdate.isTidy.append_space
        (isTable.isWord.isTidy.append_space (isSet.isTidy.append_space whole))).cleaned
    have cut := cutAt?_avoids whole avoidsAll none
    rw [spaced, List.append_nil] at cut
    have frame : updateFrame? sql.toList =
        some (table, pathComparison column.toList (mark :: (s ++ [mark])), none) := by
      have update (r : List Char) : keyword? "UPDATE" ("UPDATE".toList ++ r) = some r := rfl
      have set (r : List Char) : keyword? "SET" ("SET".toList ++ r) = some r := rfl
      have isName (r : List Char) : word? (table ++ ' ' :: r) = some (table, ' ' :: r) :=
        Select.IsTable.word?_eq { isTable with ends := rfl }
      have values := whole.blanks?_append []
      rw [List.append_nil] at values
      rw [written]
      simp only [updateFrame?, update, bind, Option.bind_some, isTable.isWord.isTidy.blanks?_append,
        isName, isSet.isTidy.blanks?_append, set, values, cut, Option.map_none]
    simp only [extractUpdate, cleaned, frame, bind, Except.bind,
      splitList_quoted isName isMark absent, readAssignments_quoted isName isMark tidy.newline_notMem]
    rfl

end Write

/-! ## Both statements -/

open Select Write

def quotedComparison (column s : String) : String := column ++ " = '" ++ s ++ "'"

def quotedSelect (field table column s : String) : String :=
  "SELECT " ++ field ++ " FROM " ++ table ++ " WHERE " ++ quotedComparison column s

def quotedUpdate (table column s : String) : String :=
  "UPDATE " ++ table ++ " SET " ++ quotedComparison column s

section

variable (field table column s : String)

theorem toList_quotedComparison : (quotedComparison column s).toList =
    pathComparison column.toList ('\'' :: (s.toList ++ ['\''])) := by
  have sign : " = '".toList = [' ', '=', ' ', '\''] := rfl
  have mark : "'".toList = ['\''] := rfl
  simp [quotedComparison, pathComparison, sign, mark]

theorem toList_quotedSelect : (quotedSelect field table column s).toList =
    selectText field.toList table.toList (' ' :: ("WHERE".toList ++ ' ' ::
      pathComparison column.toList ('\'' :: (s.toList ++ ['\''])))) := by
  have front : "SELECT ".toList = "SELECT".toList ++ [' '] := rfl
  have middle : " FROM ".toList = ' ' :: ("FROM".toList ++ [' ']) := rfl
  have behind : " WHERE ".toList = ' ' :: ("WHERE".toList ++ [' ']) := rfl
  rw [quotedSelect, String.toList_append, toList_quotedComparison]
  simp only [String.toList_append, front, middle, behind, selectText_eq, List.append_assoc,
    List.cons_append, List.nil_append]

theorem toList_quotedUpdate : (quotedUpdate table column s).toList =
    "UPDATE".toList ++ ' ' :: (table.toList ++ ' ' :: ("SET".toList ++ ' ' ::
      pathComparison column.toList ('\'' :: (s.toList ++ ['\''])))) := by
  have front : "UPDATE ".toList = "UPDATE".toList ++ [' '] := rfl
  have middle : " SET ".toList = ' ' :: ("SET".toList ++ [' ']) := rfl
  rw [quotedUpdate, String.toList_append, toList_quotedComparison]
  simp only [String.toList_append, front, middle, List.append_assoc, List.cons_append,
    List.nil_append]

end

/-- The words of a string in quotes are no clauses, as long as they do not stand like those of one:
an EXISTS clause, GROUP BY or ORDER BY where a word can begin, HAVING or WHERE between blanks. -/
theorem quoted_words_iff {field table column s : String} (isTable : IsName table)
    (isField : IsName field) (isColumn : IsName column)
    (fieldOther : ∀ word ∈ "DISTINCT" :: clauseStarts, ¬ Spells word.toList field.toList)
    (columnOther : ∀ word ∈ clauseStarts, ¬ Spells word.toList column.toList)
    (noQuote : '\'' ∉ s.toList) (single : IsSingleSpaced s.toList) :
    ((quotedSelect field table column s).length ≤ maxLength →
      (extractSelect (quotedSelect field table column s) = .ok ⟨table, [field],
          some (quotedComparison column s), none, none, none, false, none, none, none⟩ ↔
        ¬ Spells "WHERE".toList table.toList ∧ HoldsNoClause ('\'' :: (s.toList ++ ['\''])))) ∧
    (extractUpdate (quotedUpdate table column s) = .ok ⟨table, none, [(column, .string s)]⟩ ↔
      Avoids "WHERE" ('\'' :: (s.toList ++ ['\'']))) := by
  have end_ : IsTable table.toList [] := ⟨isTable.nonempty, isTable.members, rfl⟩
  have isMark : isQuote '\'' = true := rfl
  refine ⟨fun short => ?_, ?_⟩
  · have read := extractSelect_quoted_iff (isItem_column isField fieldOther) end_ isColumn columnOther
      isMark single (toList_quotedSelect field table column s) short
    rwa [← toList_quotedComparison, String.ofList_toList, String.ofList_toList] at read
  · have read := extractUpdate_quoted_iff end_ isColumn (columnOther _ (by decide)) isMark noQuote
      single (toList_quotedUpdate table column s)
    rwa [String.ofList_toList, String.ofList_toList] at read

/-- Modifiers and single words of clauses do no harm. -/
theorem quoted_words_of_modifiers :
    extractSelect (quotedSelect "f" "t" "c" "DISTINCT TOP 5 SKIP 2 FROM GROUP, BY ORDER") =
      .ok ⟨"t", ["f"], some (quotedComparison "c" "DISTINCT TOP 5 SKIP 2 FROM GROUP, BY ORDER"), none,
        none, none, false, none, none, none⟩ ∧
    extractUpdate (quotedUpdate "t" "c" "DISTINCT TOP 5 SKIP 2 FROM GROUP, BY ORDER") =
      .ok ⟨"t", none, [("c", .string "DISTINCT TOP 5 SKIP 2 FROM GROUP, BY ORDER")]⟩ := by
  have read := @quoted_words_iff "f" "t" "c" "DISTINCT TOP 5 SKIP 2 FROM GROUP, BY ORDER" (by decide)
    (by decide) (by decide) (by decide) (by decide) (by decide) (by decide)
  have noWhere : ∀ w ∈ words ('\'' :: ("DISTINCT TOP 5 SKIP 2 FROM GROUP, BY ORDER".toList ++
      ['\''])), ¬ Spells "WHERE".toList w := by decide +kernel
  exact ⟨(read.1 (by decide)).mpr ⟨by decide, by decide +kernel⟩, read.2.mpr noWhere⟩

/-- The words of a grouping and the word WHERE are taken for clauses. -/
theorem quoted_words_can_be_clauses :
    ¬ ∀ field table column s : String, IsName table → IsName field → IsName column →
      (∀ word ∈ clauseWords, ¬ Spells word.toList field.toList) →
      (∀ word ∈ clauseWords, ¬ Spells word.toList column.toList) →
      (∀ c ∈ s.toList, c.toNat < 128 ∧ isQuote c = false) → IsSingleSpaced s.toList →
      (quotedSelect field table column s).length ≤ maxLength →
      (∃ plan, extractSelect (quotedSelect field table column s) = .ok plan ∧
        plan.predicate = some (quotedComparison column s) ∧ plan.groupBy = none ∧
        plan.orderBy = none ∧ plan.exists_ = none ∧ plan.top = none ∧ plan.skip = none ∧
        plan.distinct = false) ∧
      ∃ plan, extractUpdate (quotedUpdate table column s) = .ok plan ∧ plan.predicate = none ∧
        plan.assignments = [(column, .string s)] := by
  intro always
  obtain ⟨⟨plan, read, predicate, -⟩, -⟩ := always "f" "t" "c" "a GROUP BY b" (by decide) (by decide)
    (by decide) (by decide) (by decide) (by decide) (by decide) (by decide)
  have found : (extractSelect (quotedSelect "f" "t" "c" "a GROUP BY b")).toOption.map
      SelectPlan.predicate = some (some "c = 'a") := by decide +kernel
  rw [read] at found
  have same : some (quotedComparison "c" "a GROUP BY b") = some "c = 'a" :=
    predicate.symm.trans (Option.some.inj found)
  exact absurd same (by decide)

end DocQuery

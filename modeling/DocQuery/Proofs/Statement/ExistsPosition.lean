import DocQuery.Proofs.Statement.AliasedSelect
import DocQuery.Proofs.Statement.ExistsCut

/-! # An EXISTS clause among conditions

An EXISTS clause can stand at any place among the conditions of a SELECT, or alone. Whatever stands
around it, the cut leaves the statement that would have been written without the clause.

* `ExistsClause.text` — a clause as it is written.
* `ExistsClause.IsNamed` — all names in a clause are words.
* `ExistsClause.existsClause?_text` — a written clause is read with the names that it has.
* `ExistsClause.takeExists_text` — it is the one that is cut out behind a text without another.
* `AliasedSelect.words_cut` — the words that the cut leaves.
* `AliasedSelect.repair_remainder` — a WHERE that has lost its conditions goes.
* `AliasedSelect.takeExists_bare` — what is left is the statement without the clause.
* `exists_cut_leaves_plan` — so the plan is the same but for the clause.
-/

namespace DocQuery

open DocQuery.Text DocQuery.Select

namespace ExistsClause

variable (clause : ExistsClause)

/-- The clause as it is written, with single spaces. -/
def text : String :=
  (if clause.negated then "NOT EXISTS (SELECT " else "EXISTS (SELECT ") ++ clause.selectField ++
    " FROM " ++ clause.table ++ " WHERE " ++ clause.innerField ++ " = " ++ clause.outerAlias ++
    "." ++ clause.outerField ++ ")"

/-- The names of a clause are words. -/
structure IsNamed : Prop where
  table : IsName clause.table
  selectField : IsName clause.selectField
  innerField : IsName clause.innerField
  outerAlias : IsName clause.outerAlias
  outerField : IsName clause.outerField

/-- The text of a clause, name by name. -/
theorem toList_text : clause.text.toList = (if clause.negated then "NOT ".toList else []) ++
    ("EXISTS".toList ++ ' ' :: '(' :: ("SELECT".toList ++ ' ' :: (clause.selectField.toList ++
      ' ' :: ("FROM".toList ++ ' ' :: (clause.table.toList ++ ' ' :: ("WHERE".toList ++ ' ' ::
        (clause.innerField.toList ++ ' ' :: '=' :: ' ' :: (clause.outerAlias.toList ++ '.' ::
          (clause.outerField.toList ++ [')']))))))))) := by
  unfold text
  cases clause.negated <;> simp

/-! ## Reading a clause -/

theorem labelled?_text {label name : String} (keyword : Keyword label) (isName : IsName name)
    {s : List Char} (first : s.head?.all (!isBlank ·) = true) :
    labelled? label (keyword.letters ++ ' ' :: (name.toList ++ ' ' :: s)) = some (name, s) := by
  have isTable : IsTable name.toList (' ' :: s) := ⟨isName.nonempty, isName.members, rfl⟩
  have behind : blanks? (' ' :: s) = some s := by
    rw [blanks?, if_pos (show isBlank ' ' = true from rfl), skipBlanks_eq_self first]
  simp only [labelled?, keyword.keyword?_append, bind, Option.bind_some,
    blanks?_word isTable.isWord, isTable.word?_eq, behind, String.ofList_toList]

theorem existsWord?_text (s : List Char) :
    existsWord? ((if clause.negated then "NOT ".toList else []) ++ ("EXISTS".toList ++ s)) =
      some (clause.negated, s) := by
  cases clause.negated <;> rfl

variable {clause}

/-- A written clause is read with the names that it has. -/
theorem existsClause?_text (named : clause.IsNamed) (s : List Char) :
    existsClause? (clause.text.toList ++ s) = some (clause, s) := by
  have isInner (s : List Char) : IsTable clause.innerField.toList (' ' :: s) :=
    ⟨named.innerField.nonempty, named.innerField.members, rfl⟩
  have isAlias (s : List Char) : IsTable clause.outerAlias.toList ('.' :: s) :=
    ⟨named.outerAlias.nonempty, named.outerAlias.members, rfl⟩
  have isOuter (s : List Char) : IsTable clause.outerField.toList (')' :: s) :=
    ⟨named.outerField.nonempty, named.outerField.members, rfl⟩
  have column (s : List Char) : labelled? "SELECT" ("SELECT".toList ++ ' ' ::
      (clause.selectField.toList ++ ' ' :: ("FROM".toList ++ s))) = _ :=
    labelled?_text ⟨"SELECT".toList, by decide⟩ named.selectField rfl
  have table (s : List Char) : labelled? "FROM" ("FROM".toList ++ ' ' ::
      (clause.table.toList ++ ' ' :: ("WHERE".toList ++ s))) = _ :=
    labelled?_text ⟨"FROM".toList, by decide⟩ named.table rfl
  have keyword (s : List Char) : keyword? "WHERE" ("WHERE".toList ++ s) = some s := rfl
  have skipSelect (s : List Char) : skipBlanks ("SELECT".toList ++ s) = "SELECT".toList ++ s := rfl
  have opens (s : List Char) : char? '(' (skipBlanks (' ' :: '(' :: s)) = some s := rfl
  have equals (s : List Char) : char? '=' (skipBlanks (' ' :: '=' :: s)) = some s := rfl
  have skipSpace (s : List Char) : skipBlanks (' ' :: (clause.outerAlias.toList ++ s)) =
      clause.outerAlias.toList ++ s :=
    (isAlias []).isWord.isTidy.skipBlanks_append s
  have point (s : List Char) : char? '.' ('.' :: s) = some s := rfl
  have closes (s : List Char) : char? ')' (skipBlanks (')' :: s)) = some s := rfl
  simp only [toList_text, List.append_assoc, List.cons_append, List.nil_append, existsClause?,
    existsWord?_text, bind, Option.bind_some, opens, skipSelect, column, table, keyword,
    blanks?_word (isInner []).isWord, (isInner _).word?_eq, equals, skipSpace,
    (isAlias _).word?_eq, point, (isOuter _).word?_eq, closes, String.ofList_toList]

/-- The clause is cut out behind a text that ends with neither EXISTS nor NOT. -/
theorem takeExists_text (named : clause.IsNamed) {before : List Char}
    (lacks : Lacks "EXISTS" before) (ends : EndsSolid before)
    (notNot : ∀ p, p <:+ before → ¬ Spells "NOT".toList p) (after : List Char) :
    takeExists (before ++ ' ' :: (clause.text.toList ++ after)) =
      (some clause,
        dropEmptyWhere (dropLastWhere (clean (closeCut (before ++ [' ']) after)))) := by
  have here : searchWord? existsClause? (clause.text.toList ++ after) = some ([], clause, after) :=
    search?_here rfl (existsClause?_text named after)
  have found := searchExists_append lacks ends notNot (clause.text.toList ++ after)
  rw [here, Option.map_some] at found
  simp only [takeExists, found]

theorem isTidy_text (named : clause.IsNamed) : IsTidy clause.text.toList := by
  have word (word : String) (isName : IsName word) : IsTidy word.toList := isName.isTidy
  have path := named.outerAlias.isTidy.append ((isTidy_char (c := '.') rfl).append
    (named.outerField.isTidy.append (isTidy_char (c := ')') rfl)))
  have comparison := named.innerField.isTidy.append_space
    ((isTidy_char (c := '=') rfl).append_space path)
  have source := (word "FROM" (by decide)).append_space (named.table.isTidy.append_space
    ((word "WHERE" (by decide)).append_space comparison))
  have inner := (isTidy_char (c := '(') rfl).append ((word "SELECT" (by decide)).append_space
    (named.selectField.isTidy.append_space source))
  have positive := (word "EXISTS" (by decide)).append_space inner
  rw [toList_text]
  cases clause.negated with
  | false => exact positive
  | true => exact (word "NOT" (by decide)).append_space positive

end ExistsClause

end DocQuery

namespace DocQuery.Select.AliasedSelect

open DocQuery.Text

variable (statement : AliasedSelect) {conditions front back : List (List Char)}

/-! ## The cut -/

/-- The statement up to a clause that stands behind some conditions. -/
def opening : List (List Char) → List Char
  | [] => statement.head ++ ' ' :: "WHERE".toList
  | front => (statement.head ++ whereClause front) ++ ' ' :: "AND".toList

/-- What a cut leaves. The WHERE still stands there, also if there is no condition. -/
def remainder : List (List Char) → List Char
  | [] => statement.head ++ ' ' :: ("WHERE".toList ++ laterText statement.later)
  | conditions => statement.head ++ ' ' :: ("WHERE".toList ++ ' ' ::
      (joined conditions ++ laterText statement.later))

theorem opening_eq (some_ : front ≠ []) :
    statement.opening front = (statement.head ++ whereClause front) ++ ' ' :: "AND".toList := by
  obtain ⟨condition, front, rfl⟩ := List.exists_cons_of_ne_nil some_
  rfl

theorem remainder_eq (some_ : conditions ≠ []) : statement.remainder conditions =
    statement.head ++ ' ' :: ("WHERE".toList ++ ' ' ::
      (joined conditions ++ laterText statement.later)) := by
  obtain ⟨condition, conditions, rfl⟩ := List.exists_cons_of_ne_nil some_
  rfl

theorem bare_insert (condition : List Char) (front back : List (List Char)) :
    statement.bare (front ++ condition :: back) = statement.opening front ++
      ' ' :: (condition ++ (andEach back ++ laterText statement.later)) := by
  rw [bare_eq, whereClause_eq (by simp)]
  by_cases some_ : front = []
  · subst some_
    rw [List.nil_append, joined_cons]
    simp [opening]
  · rw [statement.opening_eq some_, whereClause_eq some_, joined_append some_, andEach_cons]
    simp

theorem words_head_ne_nil : words statement.head ≠ [] := statement.isTidy_head.words_ne_nil

/-- Behind WHERE the connector goes that follows the clause, and no other word. -/
theorem words_cut_first (back : List (List Char)) :
    words (closeCut (statement.opening [] ++ [' '])
      (andEach back ++ laterText statement.later)) = words (statement.remainder back) := by
  have same : words (statement.opening [] ++ [' ']) = words statement.head ++ ["WHERE".toList] := by
    rw [words_append_gap (by decide), opening, words_append_blank rfl]
    rfl
  -- WHERE is no connector, so what follows the clause decides which word goes
  rw [words_closeCut same statement.words_head_ne_nil, if_neg (by decide)]
  cases back with
  | nil =>
    -- a later clause does not begin with a connector
    have kept : dropFirstConnector (laterText statement.later) = laterText statement.later := by
      cases statement.later with
      | nil => rfl
      | cons clause later =>
        rw [laterText_cons]
        exact clause.dropFirstConnector_text _
    rw [remainder, words_append_blank rfl, words_append_of_first (first_laterText _)]
    exact congrArg (fun s => words statement.head ++ "WHERE".toList :: words s) kept
  | cons condition back =>
    have dropped : words (dropFirstConnector (andEach (condition :: back) ++
        laterText statement.later)) =
          words (condition ++ (andEach back ++ laterText statement.later)) := by
      rw [andEach_cons]
      simp only [List.cons_append, List.append_assoc]
      exact words_skipBlanks _
    rw [dropped, statement.remainder_eq (List.cons_ne_nil _ _), joined_cons,
      words_append_blank rfl, words_append_blank rfl, List.append_assoc]
    rfl

/-- Behind other conditions the connector goes that stands in front of the clause. -/
theorem words_cut_later (some_ : front ≠ []) (back : List (List Char)) :
    words (closeCut (statement.opening front ++ [' '])
      (andEach back ++ laterText statement.later)) =
        words (statement.remainder (front ++ back)) := by
  have same : words (statement.opening front ++ [' ']) =
      words (statement.head ++ whereClause front) ++ ["AND".toList] := by
    rw [words_append_gap (by decide), statement.opening_eq some_, words_append_blank rfl]
    rfl
  have more : words (statement.head ++ whereClause front) ≠ [] := by
    rw [whereClause_eq some_, words_append_blank rfl]
    simp [statement.words_head_ne_nil]
  have first : (andEach back ++ laterText statement.later).head?.all isBlank = true := by
    cases back with
    | nil => exact first_laterText _
    | cons condition back => rfl
  -- the AND in front goes, so a connector behind the clause joins what is left
  rw [words_closeCut same more, if_pos (by decide), ← words_append_of_first first,
    statement.remainder_eq (by simp [some_]), whereClause_eq some_, joined_append some_]
  simp

/-- What a cut leaves has the words of the statement without the clause. -/
theorem words_cut (front back : List (List Char)) :
    words (closeCut (statement.opening front ++ [' '])
      (andEach back ++ laterText statement.later)) =
        words (statement.remainder (front ++ back)) := by
  by_cases some_ : front = []
  · subst some_
    exact statement.words_cut_first back
  · exact statement.words_cut_later some_ back

/-- Of two texts with WHERE between them WHERE is taken out if a clause follows. -/
theorem repair_head {t : List Char} (tidy : IsTidy t) (lacks : Lacks "WHERE" t) :
    dropEmptyWhere (dropLastWhere (clean (statement.head ++ ' ' :: ("WHERE".toList ++ ' ' :: t)))) =
      if (clauseAfterWhere? t).isSome then statement.head ++ ' ' :: t
      else statement.head ++ ' ' :: ("WHERE".toList ++ ' ' :: t) := by
  have isWhere : IsName "WHERE" := by decide
  have front := statement.isTidy_head.append_space isWhere.isTidy
  have parts : statement.head ++ ' ' :: ("WHERE".toList ++ ' ' :: t) =
      (statement.head ++ ' ' :: "WHERE".toList) ++ ' ' :: t := by simp
  rw [← dropEmptyWhere_append statement.lacks_where_head tidy.first lacks, parts,
    (front.append_space tidy).cleaned, dropLastWhere_append front tidy lacks]

theorem repair_empty :
    dropEmptyWhere (dropLastWhere (clean (statement.remainder []))) = statement.bare [] := by
  rw [remainder, bare_eq, whereClause, List.nil_append]
  cases statement.later with
  | nil =>
    -- the WHERE is the last word, so the first repair takes it
    have isWhere : IsName "WHERE" := by decide
    have cleaned := (statement.isTidy_head.append_space isWhere.isTidy).cleaned
    rw [laterText, List.flatMap_nil, List.append_nil, List.append_nil, cleaned,
      dropLastWhere_where statement.isTidy_head, dropEmptyWhere_lacks statement.lacks_where_head]
  | cons clause later =>
    -- the first repair sees another last word, and the second one takes the WHERE
    have tidy := isTidy_append_laterText clause.isTidy later
    have lacks : Lacks "WHERE" (clause.text ++ laterText later) :=
      (lacks_append_laterText (by decide) (by decide) later).mpr
        (clause.lacks (by decide) (by decide))
    rw [laterText_cons, statement.repair_head tidy lacks, if_pos (clause.clauseAfterWhere?_text _)]

/-- The repairs leave the statement without the clause. -/
theorem repair_remainder (tidy : ∀ condition ∈ conditions, IsTidy condition)
    (lacks : ∀ condition ∈ conditions, ∀ word ∈ clauseStarts, Lacks word condition) :
    dropEmptyWhere (dropLastWhere (clean (statement.remainder conditions))) =
      statement.bare conditions := by
  by_cases some_ : conditions = []
  · subst some_
    exact statement.repair_empty
  have lacksJoined : ∀ word ∈ clauseStarts, Lacks word (joined conditions) :=
    fun word isStart => lacks_joined isStart fun condition listed =>
      lacks condition listed word isStart
  have lacksWhere : Lacks "WHERE" (joined conditions ++ laterText statement.later) :=
    (lacks_append_laterText (by decide) (by decide) _).mpr (lacksJoined _ (by decide))
  -- a condition stands behind WHERE, and it does not begin with the first word of a clause
  have noClause : clauseAfterWhere? (joined conditions ++ laterText statement.later) = none := by
    refine clauseAfterWhere?_eq_none fun word listed => ?_
    have isStart : word ∈ clauseStarts := by
      revert word
      decide
    have ends : endsWord (laterText statement.later) = true := by
      cases statement.later <;> rfl
    have absent : wholeKeyword? word (joined conditions) = none :=
      lacks_iff.mp (lacksJoined word isStart) [] _ rfl rfl
    rw [wholeKeyword?_append (isKeyword_of_mem_clauseWords word (mem_clauseWords isStart)) ends,
      absent, Option.map_none]
  have whole := isTidy_append_laterText (isTidy_joined some_ tidy) statement.later
  rw [statement.remainder_eq some_, statement.repair_head whole lacksWhere, noClause, bare_eq,
    whereClause_eq some_]
  simp

theorem lacks_opening (lacks : ∀ condition ∈ front, Lacks "EXISTS" condition) :
    Lacks "EXISTS" (statement.opening front) := by
  have isKeyword : IsKeyword "EXISTS" := by decide
  have lacksHead : Lacks "EXISTS" statement.head :=
    statement.lacks_head (by decide) (by decide) (by decide)
  by_cases some_ : front = []
  · subst some_
    rw [opening, lacks_append_cons isKeyword rfl]
    exact ⟨lacksHead, by decide⟩
  · rw [statement.opening_eq some_, whereClause_eq some_, lacks_append_cons isKeyword rfl,
      lacks_append_cons isKeyword rfl, lacks_append_cons isKeyword rfl]
    exact ⟨⟨lacksHead, by decide, lacks_joined (by decide) lacks⟩, by decide⟩

/-- In front of the clause WHERE or AND stands. -/
theorem last_opening (front : List (List Char)) :
    ∃ c, (statement.opening front).getLast? = some c ∧ isBlank c = false ∧
      spells 'T' c = false := by
  by_cases some_ : front = []
  · subst some_
    refine ⟨'E', ?_, rfl, rfl⟩
    rw [opening, List.getLast?_append_of_ne_nil _ (List.cons_ne_nil _ _)]
    rfl
  · refine ⟨'D', ?_, rfl, rfl⟩
    rw [statement.opening_eq some_, List.getLast?_append_of_ne_nil _ (List.cons_ne_nil _ _)]
    rfl

/-- A clause that stands among the conditions is cut out, and leaves the statement that would have
been written without it. -/
theorem takeExists_bare {clause : ExistsClause} (named : clause.IsNamed)
    (tidy : ∀ condition ∈ front ++ back, IsTidy condition)
    (lacks : ∀ condition ∈ front ++ back, ∀ word ∈ clauseStarts, Lacks word condition) :
    takeExists (statement.bare (front ++ clause.text.toList :: back)) =
      (some clause, statement.bare (front ++ back)) := by
  have inFront : ∀ condition ∈ front, Lacks "EXISTS" condition := fun condition listed =>
    lacks condition (List.mem_append_left back listed) _ (by decide)
  obtain ⟨c, last, solid, notT⟩ := statement.last_opening front
  have ends : EndsSolid (statement.opening front) := by
    rw [EndsSolid, last]
    simp [solid]
  rw [bare_insert, clause.takeExists_text named (statement.lacks_opening inFront) ends
    fun p => not_spells_not last notT, clean, words_cut, ← clean,
    statement.repair_remainder tidy lacks]

end DocQuery.Select.AliasedSelect

namespace DocQuery

open DocQuery.Text DocQuery.Select

/-- An EXISTS clause with any names can be put at any place among conditions that are joined by AND,
also in front of the first one, behind the last one, or alone, with any clauses behind the
condition. The plan is that of the statement without it, but for the clause itself. -/
theorem exists_cut_leaves_plan (statement : AliasedSelect) (front back : List ClauseText)
    {clause : ExistsClause} (named : clause.IsNamed) {sql without : String}
    (written : clean sql.toList =
      statement.text (front.map (·.text) ++ clause.text.toList :: back.map (·.text)))
    (short : (clean sql.toList).length ≤ maxLength)
    (writtenWithout : clean without.toList = statement.text ((front ++ back).map (·.text))) :
    ∃ plan, extractSelect without = .ok plan ∧
      extractSelect sql = .ok { plan with exists_ := some clause } ∧ plan.exists_ = none ∧
      plan.predicate = if front ++ back = [] then none
        else some (join " AND " ((front ++ back).map fun part => String.ofList part.text)) := by
  have tidy (conditions : List ClauseText) :
      ∀ condition ∈ conditions.map (·.text), IsTidy condition := by
    simpa using fun condition _ => condition.isTidy
  have lacks (conditions : List ClauseText) :
      ∀ condition ∈ conditions.map (·.text), ∀ word ∈ clauseStarts, Lacks word condition := by
    simpa using fun condition _ => condition.lacks
  have noExists : ∀ condition ∈ (front ++ back).map (·.text), Lacks "EXISTS" condition :=
    fun condition listed => lacks _ condition listed _ (by decide)
  have shorter := statement.length_text_le (front.map (·.text)) clause.text.toList
    (back.map (·.text))
  have parts : (front ++ back).map (·.text) = front.map (·.text) ++ back.map (·.text) :=
    List.map_append
  have cut := statement.takeExists_bare named (parts ▸ tidy (front ++ back))
    (parts ▸ lacks (front ++ back))
  rw [written] at short
  rw [← parts] at cut shorter
  have tidyAll : ∀ condition ∈ front.map (·.text) ++ clause.text.toList :: back.map (·.text),
      IsTidy condition :=
    List.forall_mem_append.mpr
      ⟨tidy front, List.forall_mem_cons.mpr ⟨clause.isTidy_text named, tidy back⟩⟩
  refine ⟨statement.plan ((front ++ back).map (·.text)), ?_, ?_, rfl, ?_⟩
  · exact statement.extractSelect_text (tidy _) writtenWithout (shorter.trans short)
      (takeExists_lacks (statement.lacks_bare noExists))
  · exact statement.extractSelect_text tidyAll written short cut
  · rw [statement.predicate_plan (tidy _) (lacks _), ofList_joined, List.map_map]
    simp only [List.map_eq_nil_iff]
    rfl

/-- A statement whose condition has two parts. -/
def openOrders : AliasedSelect where
  modifiers := []
  once := by decide
  fields := .ofItems (.last .all) (by decide)
  table := ⟨"orders", by decide, by decide⟩
  alias_ := ⟨"o", by decide, by decide⟩
  later := [⟨.having, ⟨⟨"n > 1".toList, by decide, by decide⟩, by decide⟩⟩,
    ⟨.orderBy, ⟨⟨"id".toList, by decide, by decide⟩, by decide⟩⟩]

theorem exists_cut_between :
    ∃ plan, extractSelect ("SELECT * FROM orders o WHERE status = 'open' AND total > 5 " ++
        "HAVING n > 1 ORDER BY id") = .ok plan ∧
      extractSelect ("SELECT * FROM orders o WHERE status = 'open' AND NOT EXISTS (SELECT id " ++
        "FROM customers WHERE id = o.customer_id) AND total > 5 HAVING n > 1 ORDER BY id") =
          .ok { plan with
            exists_ := some ⟨true, "customers", "id", "id", "o", "customer_id"⟩ } ∧
      plan.exists_ = none ∧ plan.predicate = some "status = 'open' AND total > 5" := by
  -- letters stand for the texts, since the kernel takes long to decode a long text
  have letters : ("SELECT * FROM orders o WHERE status = 'open' AND NOT EXISTS (SELECT id " ++
      "FROM customers WHERE id = o.customer_id) AND total > 5 HAVING n > 1 ORDER BY id").toList =
        _ :=
    String.toList_append.trans (congrArg₂ _ String.toList_ofList String.toList_ofList)
  have lettersWithout : ("SELECT * FROM orders o WHERE status = 'open' AND total > 5 " ++
      "HAVING n > 1 ORDER BY id").toList = _ :=
    String.toList_append.trans (congrArg₂ _ String.toList_ofList String.toList_ofList)
  refine exists_cut_leaves_plan openOrders
    [⟨⟨"status = 'open'".toList, by decide, by decide⟩, by decide⟩]
    [⟨⟨"total > 5".toList, by decide, by decide⟩, by decide⟩]
    ⟨by decide, by decide, by decide, by decide, by decide⟩ ?_ ?_ ?_
  · rw [letters]
    decide +kernel
  · rw [letters]
    decide +kernel
  · rw [lettersWithout]
    decide +kernel

end DocQuery

import DocQuery.Proofs.Statement.SelectText
import DocQuery.Proofs.Text.Cleaning

/-! # A SELECT with a condition

What is read from a SELECT of all fields with a condition behind its table. The words of clauses are
looked for in the whole text, so a condition is read to its end only if it holds none of them.

* `conditionText` — the statement.
* `HasNoClause` — no word of a clause stands behind a blank.
* `whereText?_conditionText` — the condition is read up to the first clause.
* `extractSelect_conditionText` — the plan, where neither EXISTS nor GROUP BY is found.
-/

namespace DocQuery.Select

open DocQuery.Text

variable {sql : String} {table condition s : List Char} {c : Char}

/-- A SELECT of all fields with a condition. -/
def conditionText (table condition : List Char) : List Char :=
  selectText ['*'] table (' ' :: ("WHERE".toList ++ ' ' :: condition))

theorem conditionText_eq (table condition : List Char) : conditionText table condition =
    "SELECT".toList ++ ' ' :: (['*'] ++ ' ' :: ("FROM".toList ++ ' ' :: (table ++ ' ' ::
      ("WHERE".toList ++ ' ' :: condition)))) := rfl

theorem isField_all : IsField ['*'] where
  isColumn := .all
  notDistinct := by simp [Spells, spells]
  notFrom := by simp [Spells, spells]

theorem clean_conditionText (isTable : IsTable table []) (some_ : words condition ≠ []) :
    clean (conditionText table condition) = conditionText table (clean condition) := by
  obtain ⟨w, ws, same⟩ := List.exists_cons_of_ne_nil some_
  have behind (v : List Char) (word : IsWord v) {s : List Char} (more : words s ≠ []) :
      words (v ++ ' ' :: s) ≠ [] := by
    rw [words_append word rfl]
    exact List.cons_ne_nil _ _
  have isWhere : IsWord "WHERE".toList := ⟨by decide, by decide⟩
  have isFrom : IsWord "FROM".toList := ⟨by decide, by decide⟩
  have whole := behind _ isWhere some_
  rw [conditionText_eq, clean_word_append ⟨by decide, by decide⟩,
    clean_word_append IsColumn.all.isWord, clean_word_append isFrom,
    clean_word_append isTable.isWord, clean_word_append isWhere some_, conditionText_eq]
  · exact whole
  · exact behind _ isTable.isWord whole
  · exact behind _ isFrom (behind _ isTable.isWord whole)
  · exact behind _ IsColumn.all.isWord (behind _ isFrom (behind _ isTable.isWord whole))

/-! ## Words of clauses -/

/-- No word of a clause stands behind a blank. -/
def HasNoClause (s : List Char) : Prop :=
  ∀ rest next, rest <:+ s → blanks? rest = some next →
    ∀ word ∈ ["GROUP", "BY", "HAVING", "ORDER"], keyword? word next = none

/-- Where a condition ends. -/
def conditionEnds? (s : List Char) : Option Unit :=
  atGroupBy? s <|> atHaving? s <|> atOrderBy? s <|> end? s

theorem conditionEnds?_solid (solid : isBlank c = false) (s : List Char) :
    conditionEnds? (c :: s) = none := by
  simp [conditionEnds?, atGroupBy?, atHaving?, atOrderBy?, blanks?, solid, end?]

theorem conditionEnds?_blank {next : List Char} (blank : blanks? s = some next)
    (notClause : ∀ word ∈ ["GROUP", "BY", "HAVING", "ORDER"], keyword? word next = none) :
    conditionEnds? s = none := by
  cases s with
  | nil => cases blank
  | cons c s =>
    simp [conditionEnds?, atGroupBy?, atHaving?, atOrderBy?, keywords?, blank, end?, notClause]

namespace HasNoClause

theorem conditionEnds?_eq_none (noClause : HasNoClause s) {rest : List Char}
    (isSuffix : rest <:+ s) (more : rest ≠ []) : conditionEnds? rest = none := by
  obtain ⟨c, rest, rfl⟩ := List.exists_cons_of_ne_nil more
  cases solid : isBlank c with
  | false => exact conditionEnds?_solid solid rest
  | true => exact conditionEnds?_blank (if_pos solid) (noClause _ _ isSuffix (if_pos solid))

theorem append {w : List Char} (unbroken : ∀ c ∈ w, isBlank c = false)
    (noClause : HasNoClause s) : HasNoClause (w ++ s) := by
  induction w with
  | nil => exact noClause
  | cons c w ih =>
    obtain ⟨here, others⟩ := List.forall_mem_cons.mp unbroken
    intro rest next isSuffix blank
    rcases List.suffix_cons_iff.mp isSuffix with rfl | later
    · simp [blanks?, here] at blank
    · exact ih others rest next later blank

theorem space (first : s.head?.all (!isBlank ·) = true) (noClause : HasNoClause s)
    (notClause : ∀ word ∈ ["GROUP", "BY", "HAVING", "ORDER"], keyword? word s = none) :
    HasNoClause (' ' :: s) := by
  intro rest next isSuffix blank
  rcases List.suffix_cons_iff.mp isSuffix with rfl | later
  · rw [blanks?, if_pos (show isBlank ' ' = true from rfl), skipBlanks_eq_self first] at blank
    cases blank
    exact notClause
  · exact noClause rest next later blank

end HasNoClause

/-- The keyword and the table of a SELECT are passed over in a search for a clause. -/
theorem searchWord?_conditionText {β : Type} {word : String} {read : List Char → Option β}
    (needs : Needs word read) (upper : word.toList.all Char.isUpper = true)
    (letters : word.toList ≠ [])
    (others : ¬ Spells word.toList "SELECT".toList ∧ ¬ Spells word.toList "FROM".toList)
    (notAll : ¬ Spells word.toList ['*']) (isTable : IsTable table [])
    (notHere : read (table ++ ' ' :: ("WHERE".toList ++ ' ' :: condition)) = none) :
    (searchWord? read (conditionText table condition)).map (·.2) =
      (search? (atWordStart read) (some ' ') ("WHERE".toList ++ ' ' :: condition)).map (·.2) := by
  have isFrom : IsColumn "FROM".toList := .named (by decide) (by decide)
  rw [conditionText, searchWord?_selectText needs upper letters .all ⟨others.1, notAll⟩,
    search?_column needs letters upper isFrom others.2,
    search?_name isTable.nonempty isTable.members _ notHere, Option.map_map, Option.map_map]
  rfl

theorem whereText?_conditionText (isTable : IsTable table [])
    (notWhere : ¬ Spells "WHERE".toList table) (first : condition.head?.all (!isBlank ·) = true)
    {text : List Char} {answer : Unit}
    (cut : cutAt? conditionEnds? condition = some (text, answer)) :
    whereText? (conditionText table condition) = some text := by
  have needs := needs_clause "WHERE" conditionEnds?
  have notHere := needs _ <| blanks?_keyword? (by decide) isTable.isWord.unbroken notWhere
    ("WHERE".toList ++ ' ' :: condition)
  have here : clause? (keyword? "WHERE") conditionEnds? ("WHERE".toList ++ ' ' :: condition) =
      some text := by
    have keyword : keyword? "WHERE" ("WHERE".toList ++ ' ' :: condition) =
        some (' ' :: condition) := rfl
    have next : blanks? (' ' :: condition) = some condition := by
      rw [blanks?, if_pos (show isBlank ' ' = true from rfl), skipBlanks_eq_self first]
    simp only [clause?, keyword, bind, Option.bind_some, next, cut]
  change clauseText? (keyword? "WHERE") conditionEnds? _ = _
  rw [clauseText?_eq_map, searchWord?_conditionText needs (by decide) (by decide)
    ⟨by simp [Spells, spells], by simp [Spells, spells]⟩ (by simp [Spells, spells]) isTable notHere,
    search?_here rfl here]
  rfl

theorem groupByText?_conditionText (isTable : IsTable table []) (noClause : HasNoClause condition) :
    groupByText? (conditionText table condition) = none := by
  let stop : List Char → Option Unit := fun r => atHaving? r <|> atOrderBy? r <|> end? r
  have absent {s : List Char} (fails : keywords? "GROUP" "BY" s = none) :
      clause? (keywords? "GROUP" "BY") stop s = none := by
    simp [clause?, fails]
  have needs : Needs "GROUP" (clause? (keywords? "GROUP" "BY") stop) := by
    intro s fails
    refine absent ?_
    simp only [keywords?, bind, ← Option.bind_assoc, fails, Option.bind_none]
  have fails : keywords? "GROUP" "BY" (table ++ ' ' :: ("WHERE".toList ++ ' ' :: condition)) =
      none :=
    keywords?_word (by decide) isTable.isWord.unbroken rfl rfl
  have notHere := absent fails
  have nowhere : search? (atWordStart (clause? (keywords? "GROUP" "BY") stop)) (some ' ')
      condition = none := by
    refine search?_eq_none (fun rest before isSuffix => atWordStart_eq_none (absent ?_)) _
    simp only [keywords?, bind, Option.bind_eq_none_iff]
    intro behind read next blank
    obtain ⟨p, rfl, -⟩ := letters?_eq_some read
    exact noClause behind next ((List.suffix_append p behind).trans isSuffix) blank "BY" (by simp)
  change clauseText? (keywords? "GROUP" "BY") stop _ = _
  rw [clauseText?_eq_map, searchWord?_conditionText needs (by decide) (by decide)
    ⟨by simp [Spells, spells], by simp [Spells, spells]⟩ (by simp [Spells, spells]) isTable notHere,
    search?_column needs (by decide) (by decide) (.named (by decide) (by decide))
      (by simp [Spells, spells]), nowhere]
  rfl

/-! ## EXISTS -/

theorem existsWord?_eq_some {negated : Bool} {rest : List Char}
    (read : existsWord? s = some (negated, rest)) :
    ∃ front last, s = front ++ last :: rest ∧ spells 'S' last = true := by
  have keyword {s rest : List Char} (read : keyword? "EXISTS" s = some rest) :
      ∃ front last, s = front ++ last :: rest ∧ spells 'S' last = true := by
    obtain ⟨p, rfl, spelled⟩ := letters?_eq_some read
    have letters : "EXISTS".toList = ['E', 'X', 'I', 'S', 'T', 'S'] := rfl
    rw [letters, Spells] at spelled
    simp only [List.forall₂_cons_left_iff, List.forall₂_nil_left_iff] at spelled
    obtain ⟨e, _, -, ⟨x, _, -, ⟨i, _, -, ⟨s, _, -, ⟨t, _, -, ⟨last, _, spelled, rfl, rfl⟩, rfl⟩,
      rfl⟩, rfl⟩, rfl⟩, rfl⟩ := spelled
    exact ⟨[e, x, i, s, t], last, rfl, spelled⟩
  unfold existsWord? at read
  split at read
  · rename_i found
    cases read
    exact keyword found
  · obtain ⟨behind, read, same⟩ := Option.map_eq_some_iff.mp read
    cases same
    simp only [keywords?, bind, Option.bind_eq_some_iff] at read
    obtain ⟨afterNot, first, next, blank, exists_⟩ := read
    obtain ⟨p, rfl, -⟩ := letters?_eq_some first
    obtain ⟨gap, b, rfl, -⟩ := blanks?_eq_some blank
    obtain ⟨front, last, same, spelled⟩ := keyword exists_
    exact ⟨p ++ gap ++ b :: front, last, by simp [same], spelled⟩

/-- A call of another function is no EXISTS clause. -/
theorem takeExists_call {front back : List Char} (solid : isBlank c = false)
    (other : spells 'S' c = false) (noBracket : '(' ∉ front ++ [c]) (single : '(' ∉ back) :
    takeExists (front ++ c :: '(' :: back) = (none, front ++ c :: '(' :: back) := by
  have nowhere : searchWord? existsClause? (front ++ c :: '(' :: back) = none := by
    refine search?_eq_none (fun rest before isSuffix => atWordStart_eq_none ?_) none
    refine Option.bind_eq_none_iff.mpr fun ⟨negated, behind⟩ read => ?_
    refine Option.bind_eq_none_iff.mpr fun more opens => ?_
    exfalso
    obtain ⟨before, same⟩ := isSuffix
    obtain ⟨p, last, rfl, spelled⟩ := existsWord?_eq_some read
    have bracket : skipBlanks behind = '(' :: more := by
      cases left : skipBlanks behind with
      | nil =>
        rw [left] at opens
        cases opens
      | cons d rest =>
        rw [left, char?, Option.ite_none_right_eq_some, Option.some.injEq] at opens
        rw [opens.1, opens.2]
    -- the bracket is the one that is written, so the word ends in front of it
    have text : (front ++ [c]) ++ '(' :: back =
        (before ++ p ++ last :: behind.takeWhile isBlank) ++ '(' :: more := by
      rw [← bracket, skipBlanks, List.append_assoc (before ++ p), List.cons_append,
        List.takeWhile_append_dropWhile, List.append_assoc before, same]
      simp
    obtain ⟨same, -, -⟩ := (List.append_cons_inj_of_notMem noBracket single).mp text
    rcases List.eq_nil_or_concat (behind.takeWhile isBlank) with none | ⟨gap, b, some_⟩
    · rw [none] at same
      obtain ⟨-, rfl⟩ := List.append_singleton_inj.mp same
      simp [spelled] at other
    · have blank : isBlank b = true :=
        List.mem_takeWhile_imp (p := isBlank) (l := behind) (some_ ▸ by simp)
      rw [some_, List.concat_eq_append, ← List.cons_append, ← List.append_assoc] at same
      obtain ⟨-, rfl⟩ := List.append_singleton_inj.mp same
      simp [blank] at solid
  simp only [takeExists, nowhere]

/-! ## The plan -/

/-- The plan of a SELECT of all fields, with a condition and an order at most. -/
def planOf (table : String) (predicate orderBy : Option String) : SelectPlan where
  table := table
  fields := ["*"]
  predicate := predicate
  orderBy := orderBy
  top := none
  skip := none
  distinct := false
  aggregate := none
  groupBy := none
  exists_ := none

variable {plan : SelectPlan}

theorem takeExists_of_extractSelect (cleaned : clean sql.toList = conditionText table condition)
    (short : (conditionText table condition).length ≤ maxLength)
    (read : extractSelect sql = .ok plan) (noExists : plan.exists_ = none) :
    takeExists (conditionText table condition) = (none, conditionText table condition) := by
  have reclean : clean (conditionText table condition) = conditionText table condition := by
    rw [← cleaned, clean, words_clean, ← clean]
  have window : takeWindow sql ((clean sql.toList).take maxLength) =
      .ok (none, none, conditionText table condition) := by
    rw [cleaned, List.take_of_length_le short]
    exact takeWindow_selectText IsColumn.all.isWord (modifier?_column isField_all _) reclean
  have distinct : takeDistinct (conditionText table condition) =
      (false, conditionText table condition) :=
    takeDistinct_selectText IsColumn.all.isWord (wholeKeyword?_column isField_all)
  have first := exists_of_extractSelect window distinct read
  rw [noExists] at first
  unfold takeExists at first ⊢
  split at first
  · rfl
  · cases first

theorem extractSelect_planOf (isTable : IsTable table [])
    (cleaned : clean sql.toList = conditionText table condition)
    (short : (conditionText table condition).length ≤ maxLength)
    (noExists : takeExists (conditionText table condition) =
      (none, conditionText table condition)) :
    ∃ orderBy, extractSelect sql = .ok { planOf (String.ofList table)
      ((whereText? (conditionText table condition)).bind nonBlank?) orderBy with
      groupBy := (groupByText? (conditionText table condition)).map fun keys =>
        ⟨groupKeys keys, (havingText? (conditionText table condition)).bind nonBlank?⟩ } := by
  have tail : IsTable table (' ' :: ("WHERE".toList ++ ' ' :: condition)) :=
    { isTable with ends := rfl }
  exact ⟨_, extractSelect_selectText isField_all tail cleaned short noExists⟩

/-- A SELECT that is read with neither EXISTS nor GROUP BY has the condition up to a clause. -/
theorem extractSelect_conditionText (isTable : IsTable table [])
    (notWhere : ¬ Spells "WHERE".toList table) (first : condition.head?.all (!isBlank ·) = true)
    {text : List Char} {answer : Unit} (cut : cutAt? conditionEnds? condition = some (text, answer))
    (cleaned : clean sql.toList = conditionText table condition)
    (short : (conditionText table condition).length ≤ maxLength)
    (read : extractSelect sql = .ok plan) (noExists : plan.exists_ = none)
    (noGroups : plan.groupBy = none) :
    ∃ orderBy, plan = planOf (String.ofList table) (nonBlank? text) orderBy := by
  obtain ⟨orderBy, known⟩ := extractSelect_planOf isTable cleaned short
    (takeExists_of_extractSelect cleaned short read noExists)
  rw [read, Except.ok.injEq, whereText?_conditionText isTable notWhere first cut] at known
  subst known
  refine ⟨orderBy, ?_⟩
  change Option.map _ _ = none at noGroups
  rw [noGroups]
  rfl

/-- Without a word of a clause in it, the condition is read to its end. -/
theorem extractSelect_noClause (isTable : IsTable table [])
    (notWhere : ¬ Spells "WHERE".toList table) (first : condition.head?.all (!isBlank ·) = true)
    (nonempty : condition ≠ []) (oneLine : '\n' ∉ condition) (noClause : HasNoClause condition)
    (cleaned : clean sql.toList = conditionText table condition)
    (short : (conditionText table condition).length ≤ maxLength)
    (noExists : takeExists (conditionText table condition) =
      (none, conditionText table condition)) :
    ∃ orderBy, extractSelect sql =
      .ok (planOf (String.ofList table) (nonBlank? condition) orderBy) := by
  have cut : cutAt? conditionEnds? (condition ++ []) = some (condition, ()) :=
    cutAt?_first nonempty oneLine rfl fun front back _ more parts => by
      rw [List.append_nil]
      exact noClause.conditionEnds?_eq_none (parts ▸ List.suffix_append front back) more
  rw [List.append_nil] at cut
  obtain ⟨orderBy, known⟩ := extractSelect_planOf isTable cleaned short noExists
  rw [whereText?_conditionText isTable notWhere first cut,
    groupByText?_conditionText isTable noClause] at known
  exact ⟨orderBy, known⟩

end DocQuery.Select

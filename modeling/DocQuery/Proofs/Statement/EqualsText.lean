import DocQuery.Proofs.Condition.WrittenConditions
import DocQuery.Proofs.Condition.PathComparison
import DocQuery.Proofs.Statement.LiteralText
import DocQuery.Query.Plan

/-! # A SELECT that asks for a literal

What is read from a SELECT of the documents whose path equals a literal.

* `clean_equalsText` — the cleaned statement.
* `cutAt?_pathComparison` — only a literal in quotes can hold a clause that ends the condition.
* `filter_of_bare`, `filter_of_quoted` — the filter that the condition compiles to.
-/

namespace DocQuery.Select

open DocQuery.Text Condition

variable {sql : String} {table f v inner : List Char} {mark : Char} {plan : SelectPlan}
  {filter : Filter}

/-- A SELECT of the documents whose path equals a value. -/
def equalsText (table f v : List Char) : List Char := conditionText table (pathComparison f v)

theorem clean_equalsText (isTable : IsTable table []) (isWord : IsWord f) (some_ : words v ≠ []) :
    clean (equalsText table f v) = equalsText table f (clean v) := by
  have sign : IsWord ['='] := ⟨by decide, by decide⟩
  have parts (v : List Char) : pathComparison f v = f ++ ' ' :: (['='] ++ ' ' :: v) := rfl
  have behind (v : List Char) (word : IsWord v) {s : List Char} :
      words (v ++ ' ' :: s) ≠ [] := by
    rw [words_append word rfl]
    exact List.cons_ne_nil _ _
  rw [equalsText, clean_conditionText isTable, parts, clean_word_append isWord (behind _ sign),
    clean_word_append sign some_, ← parts, equalsText]
  exact parts v ▸ behind _ isWord

section

variable (path : path? f = some (f, [])) (first : v.head?.all (!isBlank ·) = true)
  (notClause : ∀ word ∈ ["GROUP", "BY", "HAVING", "ORDER"], keyword? word v = none)

include path first notClause

theorem hasNoClause_pathComparison (noClause : HasNoClause v) :
    HasNoClause (pathComparison f v) := by
  have sign : HasNoClause ('=' :: ' ' :: v) :=
    .append (w := ['=']) (by decide) (.space first noClause notClause)
  have behind : ∀ word ∈ ["GROUP", "BY", "HAVING", "ORDER"],
      keyword? word ('=' :: ' ' :: v) = none := by
    simp [keyword?, letters?, spells]
  exact .append (fun c member => (plain_of_path? path c member).2.1) (.space rfl sign behind)

/-- What ends the condition stands in its value. -/
theorem cutAt?_pathComparison (ends : EndsSolid v) :
    cutAt? conditionEnds? (pathComparison f v) =
      (cutAt? conditionEnds? v).map fun (front, found) => (pathComparison f front, found) := by
  have sign : conditionEnds? ('=' :: ' ' :: v) = none := conditionEnds?_solid rfl _
  have behindSign : conditionEnds? (' ' :: v) = none := by
    refine conditionEnds?_blank ?_ notClause
    rw [blanks?, if_pos (show isBlank ' ' = true from rfl), skipBlanks_eq_self first]
  have start : conditionEnds? v = none := by
    cases v with
    | nil => cases ends
    | cons c v => exact conditionEnds?_solid (by simpa using first) v
  have next : ∀ word ∈ ["GROUP", "BY", "HAVING", "ORDER"],
      keyword? word ('=' :: ' ' :: v) = none := by
    simp [keyword?, letters?, spells]
  have behindPath : conditionEnds? (' ' :: '=' :: ' ' :: v) = none :=
    conditionEnds?_blank rfl next
  change cutAt? conditionEnds? (f ++ ' ' :: '=' :: ' ' :: v) = _
  rw [cutAt?_word conditionEnds?_solid (isWord_of_path? path), behindPath]
  simp only [cutAt?, sign, behindSign, start, Char.reduceEq, if_false, Option.map_map]
  rfl

end

/-! ## The command -/

theorem whereFilter_of_planSelect {params : Parameters} {values : List Value} {query : QueryPlan}
    (planned : plan.planSelect params values = .ok query) :
    ∃ filter, plan.whereFilter params = .ok filter := by
  cases filtered : plan.whereFilter params with
  | ok filter => exact ⟨filter, rfl⟩
  | error fault =>
    simp [SelectPlan.planSelect, SelectPlan.selectFilter, filtered, bind, Except.bind] at planned

/-- A SELECT of all fields is run as a query without window and projection. -/
theorem planSelect_planOf {table : String} {predicate orderBy : Option String}
    {params : Parameters} {values : List Value} {query : QueryPlan}
    (filtered : (planOf table predicate orderBy).whereFilter params = .ok filter)
    (planned : (planOf table predicate orderBy).planSelect params values = .ok query) :
    ∃ sort, query = .find ⟨filter, none, sort, none, none⟩ := by
  have folded : (planOf table predicate orderBy).selectFilter params values = .ok filter := by
    rw [SelectPlan.selectFilter, filtered]
    rfl
  have command : (planOf table predicate orderBy).planWith params filter =
      ((planOf table predicate orderBy).findQuery filter).map .find := rfl
  simp only [SelectPlan.planSelect, folded, bind, Except.bind, command,
    SelectPlan.findQuery] at planned
  cases ordered : (planOf table predicate orderBy).order id with
  | error fault =>
    rw [ordered] at planned
    cases planned
  | ok sort =>
    rw [ordered] at planned
    cases planned
    exact ⟨sort, rfl⟩

/-! ## The filter -/

/-- The condition of a plan is compiled without the blanks around it. -/
theorem compileText_of_whereFilter {text condition : List Char} {orderBy : Option String}
    (trimmed : trim text = condition) (some_ : condition ≠ [])
    (filtered : (planOf (String.ofList table) (nonBlank? text) orderBy).whereFilter [] =
      .ok filter) :
    compileText .rows condition = .ok filter := by
  have predicate : nonBlank? text = some (String.ofList condition) := by
    rw [nonBlank?, trimmed]
    cases condition with
    | nil => exact absurd rfl some_
    | cons c s => rfl
  rw [predicate] at filtered
  change compile .rows [] _ = _ at filtered
  rwa [compile_nil, String.toList_ofList] at filtered

theorem comparisonFilter_of_whereFilter (path : path? f = some (f, [])) (value : IsValueText v)
    {orderBy : Option String}
    (filtered : (planOf (String.ofList table) (nonBlank? (pathComparison f v))
      orderBy).whereFilter [] = .ok filter) :
    comparisonFilter (String.ofList f) .eq v = .ok filter := by
  have compiled := compileText_of_whereFilter (trim_pathComparison path value.ends)
    (by simp [pathComparison]) filtered
  exact compileText_pathComparison path value.passes value.first value.ends value.oneLine compiled

section

variable (isTable : IsTable table []) (notWhere : ¬ Spells "WHERE".toList table)
  (path : path? f = some (f, []))

/-- An opening bracket stands in the value. -/
theorem takeExists_equalsText (isTable : IsTable table []) (path : path? f = some (f, []))
    (bare : IsBareText v) :
    takeExists (equalsText table f v) = (none, equalsText table f v) := by
  have parts : equalsText table f v = equalsText table f [] ++ v := by
    simp [equalsText, conditionText_eq, pathComparison]
  have front : '(' ∉ equalsText table f [] := by
    have inTable : '(' ∉ table := fun member => by cases isTable.members _ member
    have inPath : '(' ∉ f := fun member => by cases (plain_of_path? path _ member).1
    simp [equalsText, conditionText_eq, pathComparison, inTable, inPath]
  rw [parts]
  rcases bare.noExists with none | ⟨before, c, back, rfl, solid, other, noBracket, single⟩
  · exact takeExists_absent (by simp [front, none])
  · rw [← List.append_assoc]
    refine takeExists_call solid other ?_ single
    rw [List.append_assoc, List.mem_append, not_or]
    exact ⟨front, noBracket⟩

include isTable notWhere path

theorem filter_of_bare (bare : IsBareText v) (cleaned : clean sql.toList = equalsText table f v)
    (short : (equalsText table f v).length ≤ maxLength) (read : extractSelect sql = .ok plan)
    (filtered : plan.whereFilter [] = .ok filter) :
    ∃ predicate orderBy, plan = planOf (String.ofList table) predicate orderBy ∧
      filter = .compare .eq (String.ofList f) (Literal.parse (String.ofList v)).toValue := by
  have noClause := hasNoClause_pathComparison path bare.first bare.notClause bare.noClause
  have oneLine : '\n' ∉ pathComparison f v := by
    have inPath : '\n' ∉ f := fun member => by cases (plain_of_path? path _ member).2.1
    simp [pathComparison, inPath, bare.oneLine]
  obtain ⟨orderBy, known⟩ := extractSelect_noClause isTable notWhere (first_pathComparison path v)
    (by simp [pathComparison]) oneLine noClause cleaned short
    (takeExists_equalsText isTable path bare)
  obtain rfl : plan = _ := Except.ok.inj (read.symm.trans known)
  have compared := comparisonFilter_of_whereFilter path bare.toIsValueText filtered
  rw [bare.comparisonFilter_eq] at compared
  exact ⟨_, orderBy, rfl, (Except.ok.inj compared).symm⟩

theorem filter_of_quoted (quoted : IsQuotedText mark inner) (nonempty : inner ≠ [])
    (noId : ObjectId.parse? (String.ofList inner) = none)
    (noInstant : ∀ t, Time.Instant.parseInternet (String.ofList inner) ≠ .ok t)
    (cleaned : clean sql.toList = equalsText table f (mark :: (inner ++ [mark])))
    (short : (equalsText table f (mark :: (inner ++ [mark]))).length ≤ maxLength)
    (read : extractSelect sql = .ok plan) (noExists : plan.exists_ = none)
    (noGroups : plan.groupBy = none) (filtered : plan.whereFilter [] = .ok filter) :
    ∃ predicate orderBy, plan = planOf (String.ofList table) predicate orderBy ∧
      filter = .compare .eq (String.ofList f)
        (Literal.parse (String.ofList (mark :: (inner ++ [mark])))).toValue := by
  have value := quoted.isValueText
  have notClause : ∀ word ∈ ["GROUP", "BY", "HAVING", "ORDER"],
      keyword? word (mark :: (inner ++ [mark])) = none := by
    have isMark : mark = '\'' ∨ mark = '"' := by simpa [isQuote] using quoted.isMark
    rcases isMark with rfl | rfl <;> simp [keyword?, letters?, spells]
  obtain ⟨c, front, back, answer, parts, cut⟩ := cutAt?_isSome
    (List.cons_ne_nil mark (inner ++ [mark])) value.oneLine
    (show conditionEnds? [] = some () from rfl)
  rw [List.append_nil] at cut
  rw [List.cons_append, List.cons.injEq] at parts
  obtain ⟨rfl, parts⟩ := parts
  have reached := cutAt?_pathComparison path value.first notClause value.ends
  rw [cut, Option.map_some] at reached
  obtain ⟨orderBy, rfl⟩ := extractSelect_conditionText isTable notWhere
    (first_pathComparison path _) reached cleaned short read noExists noGroups
  rcases List.eq_nil_or_concat back with rfl | ⟨kept, last, rfl⟩
  · -- the value is read to its end
    rw [List.append_nil] at parts
    subst parts
    have compared := comparisonFilter_of_whereFilter path value filtered
    rw [quoted.comparisonFilter_eq nonempty noId noInstant] at compared
    exact ⟨_, orderBy, rfl, (Except.ok.inj compared).symm⟩
  · -- the condition is cut inside the quotes, so they are left open
    exfalso
    rw [List.concat_eq_append, ← List.append_assoc] at parts
    obtain ⟨rfl, -⟩ := List.append_singleton_inj.mp parts
    have whole (w : List Char) :
        f ++ [' ', '=', ' ', mark] ++ w = pathComparison f (mark :: w) := by
      simp [pathComparison]
    have solid := not_isBlank_of_isQuote quoted.isMark
    obtain ⟨w, isPrefix, ends, trimmed⟩ := trim_append (s := f ++ [' ', '=', ' ', mark])
      (by simpa [pathComparison] using first_pathComparison path [mark])
      (EndsSolid.append (by simp [EndsSolid, solid])) front
    rw [whole, whole] at trimmed
    have lastSolid : EndsSolid (mark :: w) := by
      rw [whole, pathComparison, ← List.append_assoc, EndsSolid,
        List.getLast?_append_of_ne_nil _ (List.cons_ne_nil mark w)] at ends
      exact ends
    have inside : ∀ c ∈ w, c ≠ mark ∧ c ≠ '\\' := by
      intro c member
      obtain ⟨notQuote, notBackslash⟩ :=
        quoted.inside c (List.mem_append_left kept (isPrefix.subset member))
      refine ⟨?_, notBackslash⟩
      rintro rfl
      cases notQuote.symm.trans quoted.isMark
    have compiled := compileText_of_whereFilter trimmed (by simp [pathComparison]) filtered
    exact compileText_unclosed path quoted.isMark inside lastSolid compiled

end

end DocQuery.Select

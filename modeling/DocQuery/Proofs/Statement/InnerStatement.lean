import DocQuery.Proofs.Statement.SelectText
import DocQuery.Proofs.Text.Names
import DocQuery.Proofs.Text.WholeWords

/-! # The inner statement of an EXISTS clause

An EXISTS clause that is read from a SELECT names a table and a column. The inner statement that is
made of the two names is shorter than the clause, so it is not cut off when it is read in its turn.

* `Select.existsClause?_eq_some` — the names of a clause, and its length.
* `Select.takeExists_eq_some`, `Select.length_of_takeWindow` — where in the statement it is read.
* `ExistsClause.IsReadable` — a clause whose inner statement is read as it is meant.
* `isReadable_of_extractSelect` — every clause that is read, but for three names of columns.
-/

namespace DocQuery

namespace Text

variable {s r w : List Char}

/-! ## Lengths -/

theorem length_of_keyword? {word : String} (read : keyword? word s = some r) :
    s.length = word.length + r.length := by
  obtain ⟨p, rfl, spelled⟩ := letters?_eq_some read
  rw [List.length_append, ← spelled.length_eq, String.length_toList]

theorem length_skipBlanks_le (s : List Char) : (skipBlanks s).length ≤ s.length :=
  (List.dropWhile_suffix isBlank).length_le

theorem length_of_blanks? (read : blanks? s = some r) : r.length < s.length := by
  obtain ⟨front, b, rfl, -⟩ := blanks?_eq_some read
  rw [List.length_append, List.length_cons]
  omega

theorem length_of_char? {c : Char} (read : char? c s = some r) : r.length < s.length := by
  cases s with
  | nil => cases read
  | cons d s =>
    simp only [char?, Option.ite_none_right_eq_some, Option.some.injEq] at read
    simp [← read.2]

theorem length_of_run? {member : Char → Bool} (read : run? member s = some (w, r)) :
    r.length ≤ s.length := by
  unfold run? at read
  split at read
  · cases read
  · cases read
    exact (List.dropWhile_suffix member).length_le

theorem length_of_word? (read : word? s = some (w, r)) :
    s.length = w.length + r.length ∧ IsName (String.ofList w) := by
  obtain ⟨rfl, nonempty, members⟩ := word?_eq_some read
  exact ⟨List.length_append, by simpa using nonempty, by simpa using members⟩

/-- A cleaned text is no longer than the text, and shorter if the text begins with a blank. -/
theorem length_clean_lt (s : List Char) :
    (clean s).length + (if s.head?.any isBlank then 1 else 0) ≤ s.length := by
  induction s using words_induction with
  | nil => simp [clean, words, unwords]
  | blank c s blank ih =>
    rw [clean, words_cons_blank blank, ← clean, List.head?_cons, Option.any_some, if_pos blank,
      List.length_cons]
    omega
  | word w s isWord first ih =>
    obtain ⟨c, w, rfl⟩ := List.exists_cons_of_ne_nil isWord.nonempty
    have solid : isBlank c = false := isWord.unbroken c List.mem_cons_self
    have noBlank : ((c :: w ++ s).head?.any isBlank) = false := solid
    rw [clean, words_append isWord first, noBlank, List.length_append]
    cases others : words s with
    | nil => simp [unwords]
    | cons v ws =>
      -- more words follow, so a blank does
      have blank : s.head?.any isBlank = true := by
        cases s with
        | nil => cases others
        | cons d s => exact first
      rw [clean, others, if_pos blank] at ih
      rw [unwords_cons_cons]
      simp only [List.length_append, List.length_cons, Bool.false_eq_true, if_false]
      omega

theorem length_clean_le (s : List Char) : (clean s).length ≤ s.length :=
  (Nat.le_add_right _ _).trans (length_clean_lt s)

end Text

namespace Select

open DocQuery.Text

variable {s r : List Char} {sql : String} {clause : ExistsClause}

/-! ## The clause -/

theorem length_of_existsWord? {negated : Bool} (read : existsWord? s = some (negated, r)) :
    r.length + 6 ≤ s.length := by
  unfold existsWord? at read
  split at read
  · rename_i behind found
    cases read
    have := length_of_keyword? found
    have letters : "EXISTS".length = 6 := rfl
    omega
  · obtain ⟨behind, read, ⟨⟩⟩ := Option.map_eq_some_iff.mp read
    obtain ⟨afterNot, first, read⟩ := Option.bind_eq_some_iff.mp read
    obtain ⟨next, blank, read⟩ := Option.bind_eq_some_iff.mp read
    have one := length_of_keyword? first
    have two := length_of_blanks? blank
    have three := length_of_keyword? read
    have letters : "EXISTS".length = 6 := rfl
    omega

theorem length_of_labelled? {label name : String} (read : labelled? label s = some (name, r)) :
    label.length + name.length + r.length < s.length ∧ IsName name := by
  simp only [labelled?, bind, Option.bind_eq_some_iff] at read
  obtain ⟨afterLabel, first, start, blank, ⟨w, rest⟩, isWord, behind, last, same⟩ := read
  cases same
  obtain ⟨length, isName⟩ := length_of_word? isWord
  have one := length_of_keyword? first
  have two := length_of_blanks? blank
  have three := length_of_blanks? last
  dsimp only at three ⊢
  rw [String.length_ofList]
  exact ⟨by omega, isName⟩

/-- The table and the inner column are names, and the clause is longer than the statement that is
made of them. -/
theorem existsClause?_eq_some (read : existsClause? s = some (clause, r)) :
    IsName clause.table ∧ IsName clause.innerField ∧ clause.innerStatement.length ≤ s.length := by
  simp only [existsClause?, bind, Option.bind_eq_some_iff] at read
  obtain ⟨⟨negated, s₁⟩, word, s₂, opening, ⟨selectField, s₃⟩, selected, ⟨table, s₄⟩, fromTable, s₅,
    keyword, s₆, blank, ⟨inner, s₇⟩, innerWord, s₈, -, ⟨outerAlias, s₉⟩, -, s₁₀, -,
    ⟨outerField, s₁₁⟩, -, s₁₂, -, same⟩ := read
  cases same
  have first := length_of_existsWord? word
  have bracket := length_of_char? opening
  have gap := length_skipBlanks_le s₁
  obtain ⟨select, -⟩ := length_of_labelled? selected
  have gapInside := length_skipBlanks_le s₂
  obtain ⟨source, isTable⟩ := length_of_labelled? fromTable
  have condition := length_of_keyword? keyword
  have gapBehind := length_of_blanks? blank
  obtain ⟨column, isInner⟩ := length_of_word? innerWord
  refine ⟨isTable, isInner, ?_⟩
  -- the clause has the words of the inner statement, the two names and more
  have letters : "SELECT".length = 6 ∧ "FROM".length = 4 ∧ "WHERE".length = 5 := ⟨rfl, rfl, rfl⟩
  simp only [ExistsClause.innerStatement, String.length_append, String.length_ofList]
  have parts : "SELECT ".length = 7 ∧ " FROM ".length = 6 := ⟨rfl, rfl⟩
  dsimp only at *
  omega

/-! ## The statement in which it is read -/

theorem takeExists_eq_some (taken : (takeExists s).1 = some clause) :
    ∃ rest after, rest <:+ s ∧ existsClause? rest = some (clause, after) := by
  unfold takeExists at taken
  split at taken
  · cases taken
  · rename_i searched
    cases taken
    obtain ⟨rest, isSuffix, read⟩ := searchWord?_eq_some searched
    exact ⟨rest, _, isSuffix, read⟩

theorem length_takeDistinct_le (s : List Char) : (takeDistinct s).2.length ≤ s.length := by
  unfold takeDistinct
  split
  · rename_i rest read
    simp only [bind, Option.bind_eq_some_iff] at read
    obtain ⟨behind, first, start, blank, distinct⟩ := read
    -- the text is put together again without the word
    have select := length_of_keyword? first
    have gap := length_of_blanks? blank
    obtain ⟨p, same, -, -⟩ := wholeKeyword?_eq_some_iff.mp distinct
    have whole := congrArg List.length same
    have letters : "SELECT".toList.length = "SELECT".length := rfl
    rw [List.length_append] at whole
    simp only [List.length_append]
    omega
  · exact Nat.le_refl _

theorem length_of_bareModifier? {m : Modifier} (read : bareModifier? s = some (m, r)) :
    r.length ≤ s.length := by
  have counted {word : String} {digits : List Char}
      (count : counted? word s = some (digits, r)) : r.length ≤ s.length := by
    simp only [counted?, bind, Option.bind_eq_some_iff] at count
    obtain ⟨behind, first, start, blank, number⟩ := count
    have keyword := length_of_keyword? first
    have gap := length_of_blanks? blank
    have rest := length_of_run? number
    omega
  unfold bareModifier? at read
  split at read
  · rename_i found
    cases read
    have keyword := length_of_keyword? found
    omega
  · split at read
    · rename_i found
      cases read
      exact counted found
    · obtain ⟨⟨digits, rest⟩, found, same⟩ := Option.map_eq_some_iff.mp read
      cases same
      exact counted found

/-- The length of written modifiers with a blank behind each. -/
def spacedLength : List WrittenModifier → Nat
  | [] => 0
  | m :: rest => m.source.length + 1 + spacedLength rest

theorem length_of_modifier? {m : WrittenModifier} (read : modifier? s = some (m, r)) :
    m.source.length + 1 + r.length ≤ s.length := by
  simp only [modifier?, bind, Option.bind_eq_some_iff] at read
  obtain ⟨⟨modifier, after⟩, bare, rest, blank, same⟩ := read
  cases same
  have taken := length_of_bareModifier? bare
  have gap := length_of_blanks? blank
  have source : (s.take (s.length - after.length)).length ≤ s.length - after.length :=
    List.length_take_le _ _
  dsimp only at *
  omega

theorem length_takeModifiers_le (fuel : Nat) (s : List Char) :
    spacedLength (takeModifiers fuel s).1 + (takeModifiers fuel s).2.length ≤ s.length := by
  induction fuel generalizing s with
  | zero => simp [takeModifiers, spacedLength]
  | succ fuel ih =>
    rw [takeModifiers]
    split
    · simp [spacedLength]
    · rename_i m rest read
      have first := length_of_modifier? read
      have others := ih rest
      simp only [spacedLength]
      omega

theorem spacedLength_takeFirst?_le {β : Type} {test : Modifier → Option β} {found : β}
    {modifiers others : List WrittenModifier}
    (taken : takeFirst? test modifiers = some (found, others)) :
    spacedLength others ≤ spacedLength modifiers := by
  induction modifiers generalizing others with
  | nil => cases taken
  | cons m rest ih =>
    rw [takeFirst?] at taken
    split at taken
    · cases taken
      simp [spacedLength]
    · obtain ⟨⟨found, kept⟩, later, same⟩ := Option.map_eq_some_iff.mp taken
      cases same
      simpa [spacedLength] using ih later

theorem spacedLength_takeCount_le {test : Modifier → Option (List Char)} {count : Option Nat}
    {modifiers others : List WrittenModifier}
    (taken : takeCount sql test modifiers = .ok (count, others)) :
    spacedLength others ≤ spacedLength modifiers := by
  unfold takeCount at taken
  split at taken
  · cases taken
    exact Nat.le_refl _
  · rename_i found
    split at taken
    · cases taken
      exact spacedLength_takeFirst?_le found
    · cases taken

theorem length_unwords_modifiers (first body : List Char) (modifiers : List WrittenModifier) :
    (unwords (first :: modifiers.map (·.source) ++ [body])).length =
      first.length + 1 + spacedLength modifiers + body.length := by
  induction modifiers generalizing first with
  | nil => simp [unwords, spacedLength]; omega
  | cons m rest ih =>
    rw [List.map_cons, List.cons_append, List.cons_append, unwords_cons_cons, ← List.cons_append,
      List.length_append, List.length_cons, ih]
    simp only [spacedLength]
    omega

/-- The text without row limit and offset is no longer than the statement. -/
theorem length_of_takeWindow {top skip : Option Nat}
    (taken : takeWindow sql s = .ok (top, skip, r)) : r.length ≤ s.length := by
  unfold takeWindow at taken
  split at taken
  · cases taken
    exact Nat.le_refl _
  · rename_i modifiers body head
    simp only [splitHead?, bind, Option.bind_eq_some_iff] at head
    obtain ⟨behind, first, start, blank, same⟩ := head
    have bound := length_takeModifiers_le start.length start
    rw [Option.some.inj same] at bound
    have keyword := length_of_keyword? first
    have gap := length_of_blanks? blank
    simp only [bind, Except.bind] at taken
    split at taken
    · cases taken
    · rename_i limited
      split at taken
      · cases taken
      · rename_i rest
        cases taken
        have one := spacedLength_takeCount_le limited
        have two := spacedLength_takeCount_le rest
        have letters : "SELECT".toList.length = "SELECT".length := rfl
        refine (length_clean_le _).trans ?_
        rw [length_unwords_modifiers]
        dsimp only at *
        omega

/-- The names of a clause that is read from a SELECT, and the length of its inner statement. -/
theorem names_of_extractSelect {plan : SelectPlan} (read : extractSelect sql = .ok plan)
    (found : plan.exists_ = some clause) : IsName clause.table ∧ IsName clause.innerField ∧
      clause.innerStatement.length ≤ maxLength := by
  cases window : takeWindow sql ((clean sql.toList).take maxLength) with
  | error e => simp [extractSelect, window, bind, Except.bind] at read
  | ok taken =>
    obtain ⟨top, skip, text⟩ := taken
    -- of the later steps only the first looks for the clause
    have inExists : plan.exists_ = (takeExists (takeDistinct text).2).1 := by
      simp only [extractSelect, window, bind, Except.bind] at read
      split at read
      · split at read
        · split at read
          · cases read
          · cases read
            rfl
        · cases read
      · cases read
    obtain ⟨rest, after, isSuffix, clauseRead⟩ := takeExists_eq_some (inExists.symm.trans found)
    obtain ⟨isTable, isInner, length⟩ := existsClause?_eq_some clauseRead
    refine ⟨isTable, isInner, length.trans (isSuffix.length_le.trans ?_)⟩
    refine (length_takeDistinct_le text).trans ((length_of_takeWindow window).trans ?_)
    exact List.length_take_le _ _

end Select

/-! ## The inner statement -/

open DocQuery.Text

theorem ExistsClause.toList_innerStatement (clause : ExistsClause) :
    clause.innerStatement.toList =
      Select.selectText clause.innerField.toList clause.table.toList [] := by
  simp [innerStatement, Select.selectText_eq]

/-- An inner statement of one column of one table, in which the column is not taken for a word of
the statement itself. -/
structure ExistsClause.IsReadable (clause : ExistsClause) : Prop where
  table : IsName clause.table
  field : IsName clause.innerField
  notKeyword : ∀ word ∈ ["FROM", "WHERE", "DISTINCT"],
    ¬ Spells word.toList clause.innerField.toList
  short : clause.innerStatement.length ≤ Select.maxLength

namespace ExistsClause.IsReadable

variable {clause : ExistsClause}

theorem isField (readable : clause.IsReadable) : Select.IsField clause.innerField.toList where
  isColumn := readable.field.isColumn
  notDistinct := readable.notKeyword _ (by simp)
  notFrom := readable.notKeyword _ (by simp)

theorem isTable (readable : clause.IsReadable) : Select.IsTable clause.table.toList [] where
  nonempty := readable.table.nonempty
  members := readable.table.members
  ends := rfl

theorem cleaned (readable : clause.IsReadable) :
    clean clause.innerStatement.toList =
      Select.selectText clause.innerField.toList clause.table.toList [] := by
  have fourWords : Select.selectText clause.innerField.toList clause.table.toList [] =
      unwords ["SELECT".toList, clause.innerField.toList, "FROM".toList, clause.table.toList] := by
    rw [Select.selectText_eq, List.append_nil]
    rfl
  rw [clause.toList_innerStatement, fourWords, clean_unwords]
  simp only [List.forall_mem_cons, List.not_mem_nil, false_implies, implies_true, and_true]
  exact ⟨⟨by decide, by decide⟩, readable.isField.isColumn.isWord, ⟨by decide, by decide⟩,
    readable.isTable.isWord⟩

/-- The inner statement is read as a SELECT of the inner table without a condition. -/
theorem read (readable : clause.IsReadable) :
    ∃ inner, extractSelect clause.innerStatement = .ok inner ∧ inner.table = clause.table ∧
      inner.predicate = none := by
  have notWhere : ¬ Spells "WHERE".toList clause.innerField.toList :=
    readable.notKeyword _ (by simp)
  have short : (Select.selectText clause.innerField.toList clause.table.toList []).length ≤
      Select.maxLength := by
    rw [← clause.toList_innerStatement, String.length_toList]
    exact readable.short
  simpa using Select.extractSelect_bare readable.isField notWhere readable.isTable
    readable.cleaned short

end ExistsClause.IsReadable

/-- A clause that is read from a SELECT is readable, unless its column is one of three words. -/
theorem isReadable_of_extractSelect {sql : String} {plan : SelectPlan} {clause : ExistsClause}
    (read : extractSelect sql = .ok plan) (found : plan.exists_ = some clause)
    (notKeyword : ∀ word ∈ ["FROM", "WHERE", "DISTINCT"],
      ¬ Spells word.toList clause.innerField.toList) : clause.IsReadable := by
  obtain ⟨isTable, isInner, short⟩ := Select.names_of_extractSelect read found
  exact ⟨isTable, isInner, notKeyword, short⟩

end DocQuery

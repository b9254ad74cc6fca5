import DocQuery.Proofs.Statement.SelectHead

/-! # Reading the clauses of a SELECT

Every clause is looked for in the whole text on its own. It is found behind a text that lacks its
keyword, and it ends where one of the later clauses begins, or at the end.

* `FieldItem.isListItem`, `FieldItem.lacks` — what is in a field list.
* `readItems_fieldList`, `modifier?_fieldList` — what is read of one.
* `clauseText?_here`, `clauseText?_absent` — a clause is found, or there is none.
* `WrittenSelect.rest` — the statement without its modifiers.
* `WrittenSelect.whereText?_rest` and so on — what is read of each clause.
-/

namespace DocQuery.Select

open DocQuery.Text

variable {word : String} {s t w front back : List Char} {start : List Char → Option (List Char)}
  {stop : List Char → Option Unit}

/-! ## Parts -/

namespace Label

variable (label : Label)

theorem lacks (isClause : word ∈ clauseWords) (notAs : "AS" ≠ word) : Lacks word label.text := by
  have isKeyword := isKeyword_of_mem_clauseWords word isClause
  rw [text, lacks_append_cons isKeyword rfl]
  exact ⟨label.keyword.lacks (by decide) isKeyword notAs, label.label.lacks isClause⟩

theorem isPlain : ∀ c ∈ label.text, isPlain c = true := by
  rw [text, List.forall_mem_append, List.forall_mem_cons]
  exact ⟨(label.keyword.isColumn (by decide)).isPlain, rfl, label.label.isColumn.isPlain⟩

theorem isTidy : IsTidy label.text :=
  (label.keyword.isWord (by decide)).isTidy.append_space label.label.isColumn.isWord.isTidy

end Label

/-! ## Field lists -/

namespace FieldItem

/-- A call with its label is one item of a list. -/
theorem isListItem_call (keyword : Keyword word) (isKeyword : IsKeyword word)
    (beforeBracket beforeArgument afterArgument : Gap) {argument : List Char}
    (column : IsColumn argument) (label : Option Label) :
    IsListItem (keyword.letters ++ (beforeBracket.text ++ '(' :: (beforeArgument.text ++
      (argument ++ (afterArgument.text ++ ')' :: spaced Label.text label))))) where
  toIsTidy := by
    have closes : IsTidy ([')'] ++ spaced Label.text label) := by
      cases label with
      | none => exact isTidy_char rfl
      | some label => exact (isTidy_char rfl).append_space label.isTidy
    have behind := afterArgument.isTidy_append column.isWord.isTidy closes
    have brackets := beforeArgument.isTidy_append (isTidy_char (c := '(') rfl) behind
    exact beforeBracket.isTidy_append (keyword.isWord isKeyword).isTidy brackets
  together := by
    have plain : ∀ c ∈ beforeArgument.text ++ (argument ++ afterArgument.text),
        isPlain c = true := by
      rw [List.forall_mem_append, List.forall_mem_append]
      exact ⟨beforeArgument.isPlain_of_mem, column.isPlain, afterArgument.isPlain_of_mem⟩
    have brackets : StaysTogether
        ('(' :: ((beforeArgument.text ++ (argument ++ afterArgument.text)) ++ [')'])) :=
      .parenthesised fun rest => listPieces_plain plain 1 _
    have labelled : StaysTogether (spaced Label.text label) := by
      cases label with
      | none => exact .plain (by simp [spaced])
      | some label => exact .plain (List.forall_mem_cons.mpr ⟨rfl, label.isPlain⟩)
    have whole : StaysTogether (keyword.letters ++ (beforeBracket.text ++
        (('(' :: ((beforeArgument.text ++ (argument ++ afterArgument.text)) ++ [')'])) ++
          spaced Label.text label))) :=
      .append (.plain (keyword.isColumn isKeyword).isPlain)
        (.append (.plain beforeBracket.isPlain_of_mem) (brackets.append labelled))
    simpa using whole

theorem isListItem (item : FieldItem) : IsListItem item.text := by
  cases item with
  | all => exact IsColumn.all.isListItem
  | column identifier => exact identifier.isColumn.isListItem
  | count keyword beforeBracket beforeStar afterStar label =>
    exact isListItem_call keyword (by decide) beforeBracket beforeStar afterStar .all label
  | apply function keyword beforeBracket beforeField afterField field label =>
    have isKeyword : IsKeyword function.name := by cases function <;> decide
    exact isListItem_call keyword isKeyword beforeBracket beforeField afterField field.isColumn label

/-- No item but a labelled one holds a word of clauses. -/
theorem lacks (item : FieldItem) (isClause : word ∈ clauseWords) (notAs : "AS" ≠ word) :
    Lacks word item.text := by
  have isKeyword := isKeyword_of_mem_clauseWords word isClause
  have labelled (label : Option Label) : ∀ a ∈ label, Lacks word a.text :=
    fun a _ => a.lacks isClause notAs
  have closes (label : Option Label) : Lacks word (')' :: spaced Label.text label) := by
    have cut : Lacks word ([')'] ++ spaced Label.text label) ↔ _ := lacks_append_spaced isKeyword
    refine cut.mpr ⟨?_, labelled label⟩
    exact (lacks_blank isKeyword rfl).mpr (lacks_nil isKeyword)
  cases item with
  | all => exact (lacks_blank isKeyword rfl).mpr (lacks_nil isKeyword)
  | column identifier => exact identifier.lacks isClause
  | count keyword beforeBracket beforeStar afterStar label =>
    have other : "COUNT" ≠ word := by
      rintro rfl
      exact absurd isClause (by decide)
    rw [text, beforeBracket.lacks_append_cons isKeyword rfl, beforeStar.lacks_append isKeyword,
      lacks_blank isKeyword rfl, afterStar.lacks_append isKeyword]
    exact ⟨keyword.lacks (by decide) isKeyword other, closes label⟩
  | apply function keyword beforeBracket beforeField afterField field label =>
    have known : IsKeyword function.name ∧ function.name ∉ clauseWords := by
      cases function <;> decide
    have other : function.name ≠ word := by
      rintro rfl
      exact known.2 isClause
    rw [text, beforeBracket.lacks_append_cons isKeyword rfl, beforeField.lacks_append isKeyword,
      afterField.lacks_append_cons isKeyword rfl]
    have label := closes label
    rw [lacks_blank isKeyword rfl] at label
    exact ⟨keyword.lacks known.1 isKeyword other, field.lacks isClause, label⟩

end FieldItem

section fields

variable (fields : CommaList FieldItem)

theorem isListItem_of_mem : ∀ item ∈ fields.items, IsListItem (FieldItem.text item) :=
  fun item _ => item.isListItem

theorem isTidy_fieldList : IsTidy (fields.text FieldItem.text) :=
  CommaList.isTidy_text (isListItem_of_mem fields)

theorem lacks_fieldList (isClause : word ∈ clauseWords) (notAs : "AS" ≠ word) :
    Lacks word (fields.text FieldItem.text) :=
  fields.lacks (isKeyword_of_mem_clauseWords word isClause) fun item _ => item.lacks isClause notAs

/-- A field list begins with no word of clauses. -/
theorem wholeKeyword?_fieldList (isClause : word ∈ clauseWords) (notAs : "AS" ≠ word) :
    wholeKeyword? word (fields.text FieldItem.text) = none :=
  lacks_iff.mp (lacks_fieldList fields isClause notAs) [] _ rfl rfl

theorem modifier?_fieldList (s : List Char) :
    modifier? (fields.text FieldItem.text ++ ' ' :: s) = none := by
  have absent {word : String} (isClause : word ∈ clauseWords) (notAs : "AS" ≠ word) :
      wholeKeyword? word (fields.text FieldItem.text ++ ' ' :: s) = none := by
    rw [wholeKeyword?_append (isKeyword_of_mem_clauseWords word isClause) rfl,
      wholeKeyword?_fieldList fields isClause notAs, Option.map_none]
  exact modifier?_eq_none (absent (by decide) (by decide)) (absent (by decide) (by decide))
    (absent (by decide) (by decide))

theorem readItems_fieldList (oneCall : (fields.items.filterMap FieldItem.call?).length ≤ 1)
    (sql : String) : readItems sql none (splitList (fields.text FieldItem.text)) =
      .ok (fields.items.map FieldItem.output, fields.items.findSome? FieldItem.call?) := by
  rw [CommaList.splitList_text (isListItem_of_mem fields)]
  exact readItems_text fields.items none oneCall

end fields

/-! ## Finding clauses -/

/-- A clause is found behind a text that lacks its keyword. -/
theorem clauseText?_here (isKeyword : IsKeyword word) (needs : NeedsWord word (clause? start stop))
    (lacks : Lacks word front) (here : clause? start stop s = some w) :
    clauseText? start stop (front ++ ' ' :: s) = some w := by
  have found : searchWord? (clause? start stop) s = some ([], w) := search?_here rfl here
  rw [clauseText?_eq_map, searchWord?_append needs lacks isKeyword, found]
  rfl

theorem clauseText?_absent (needs : NeedsWord word (clause? start stop)) (lacks : Lacks word s) :
    clauseText? start stop s = none := by
  rw [clauseText?_eq_map, searchWord?_eq_none needs lacks]
  rfl

theorem needsWord_clause (word : String) (stop : List Char → Option Unit) :
    NeedsWord word (clause? (keyword? word) stop) :=
  (needs_clause word stop).needsWord

/-- What follows two keywords needs the first of them, with a blank behind it. -/
theorem needs_keywords {β : Type} (first second : String) (next : List Char → Option β) :
    Needs first fun s => (keywords? first second s).bind next := by
  intro s fails
  simp only [keywords?, bind, ← Option.bind_assoc, fails, Option.bind_none]

theorem needsWord_clauses (first second : String) (stop : List Char → Option Unit) :
    NeedsWord first (clause? (keywords? first second) stop) :=
  (needs_keywords first second _).needsWord

/-- The text of a clause is cut where what ends it begins. -/
theorem clause?_eq_some (starts : start s = some (' ' :: (w ++ t)))
    (tidy : IsTidy w) (stops : stop t = some ())
    (inside : ∀ back, back <:+ w → back ≠ [] → stop (back ++ t) = none) :
    clause? start stop s = some w := by
  have next := tidy.blanks?_append t
  have cut : cutAt? stop (w ++ t) = some (w, ()) :=
    cutAt?_first tidy.ne_nil tidy.newline_notMem stops fun front back _ some_ same =>
      inside back (same ▸ List.suffix_append front back) some_
  simp only [clause?, starts, bind, Option.bind_some, next, cut]

/-! ## Ends of clauses -/

/-- Inside a text that lacks a keyword nothing ends that begins with it. -/
theorem bind_blanks?_inside {β : Type} {read : List Char → Option β} (isKeyword : IsKeyword word)
    (needs : NeedsWord word read) (lacks : Lacks word w) (ends : EndsSolid w) (isSuffix : back <:+ w)
    (more : back ≠ []) (behind : endsWord t = true) : (blanks? (back ++ t)).bind read = none := by
  rw [Option.bind_eq_none_iff]
  intro next blank
  exact needs next (wholeKeyword?_inside ends isSuffix more blank isKeyword lacks behind)

theorem atEnd?_inside (more : back ≠ []) : end? (back ++ t) = none := by
  cases back with
  | nil => exact absurd rfl more
  | cons c back => rfl

theorem needs_beforeBlank? (word : String) :
    Needs word fun s => (keyword? word s).bind beforeBlank? := by
  intro s fails
  have next : beforeBlank? = fun s => (blanks? s).bind fun _ => some () := by
    funext s
    cases read : blanks? s <;> simp [beforeBlank?, read]
  rw [next]
  simp only [← Option.bind_assoc, fails, Option.bind_none]

section inside

variable (ends : EndsSolid w) (isSuffix : back <:+ w) (more : back ≠ [])
  (behind : endsWord t = true)

include ends isSuffix more behind

theorem atGroupBy?_inside (lacks : Lacks "GROUP" w) : atGroupBy? (back ++ t) = none :=
  bind_blanks?_inside (by decide) (needs_keywords "GROUP" "BY" beforeBlank?).needsWord lacks ends
    isSuffix more behind

theorem atHaving?_inside (lacks : Lacks "HAVING" w) : atHaving? (back ++ t) = none :=
  bind_blanks?_inside (by decide) (needs_beforeBlank? "HAVING").needsWord lacks ends isSuffix more
    behind

theorem atOrderBy?_inside (lacks : Lacks "ORDER" w) : atOrderBy? (back ++ t) = none :=
  bind_blanks?_inside (by decide) (needs_keywords "ORDER" "BY" beforeBlank?).needsWord lacks ends
    isSuffix more behind

end inside

/-- One of several ends is enough. -/
theorem orElse_eq_some {a b : Option Unit} : (a <|> b) = some () ↔ a = some () ∨ b = some () := by
  cases a <;> cases b <;> simp

end DocQuery.Select

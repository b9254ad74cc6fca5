import DocQuery.Proofs.Condition.WrittenValues
import DocQuery.Proofs.Text.CommaLists

/-! # Lists in conditions

The texts that can be items of a list, and what a list of them is read as. How an item is written is
left open: what counts is that nothing in its text cuts, and what it is read as.

* `IsItem` — a text that is an item of a list, and its value.
* `passes_membershipTail` — no connector cuts a list.
* `leafFilter_membership` — the filter of a condition that a field is, or is not, in a list.
-/

namespace DocQuery.Condition

open DocQuery.Text WrittenCondition

variable {rest : List Char} {depth : Nat} {between : Bool}

/-! ## Keywords -/

theorem passes_space (rest : List Char) : Passes depth between between [' '] rest :=
  passes_separator (by decide) rest

/-- A keyword other than those that join conditions, and a blank. -/
theorem passes_keyword {w : List Char} (continues : w.all continuesWord = true)
    (other : [JoiningWord.between, .and, .or].all fun word => w.map Char.toUpper != word.letters)
    (ends : EndsWord rest) : Passes 0 between between w rest := by
  refine passes_word (List.all_eq_true.mp continues) (fun _ word => ?_) ends
  have differs := List.all_eq_true.mp other word (by cases word <;> decide)
  simpa using differs

theorem passes_notLetters (negated : Bool) (rest : List Char) :
    Passes 0 between between (notLetters negated) rest := by
  cases negated with
  | false => exact Passes.nil
  | true =>
    have letters : Passes 0 between between ['N', 'O', 'T'] (' ' :: rest) :=
      passes_keyword rfl rfl rfl
    exact letters.append (passes_space rest)

/-! ## Items -/

/-- A text that stays together in a list and in a condition, and is read as the value. -/
structure IsItem (w : List Char) (value : Value) : Prop where
  passes : ∀ {depth between rest}, EndsWord rest → Passes depth between between w rest
  together : StaysTogether w
  first : w.head?.all (!isBlank ·) = true
  ends : EndsSolid w
  oneLine : '\n' ∉ w
  read : itemValue w = value

theorem IsItem.ne_nil {w : List Char} {value : Value} (isItem : IsItem w value) : w ≠ [] := by
  rintro rfl
  cases isItem.ends

theorem WrittenValue.isItem (v : WrittenValue) : IsItem v.text v.value where
  passes := v.passes
  together := v.listPieces_text
  first := by simpa using v.first_text []
  ends := v.solid_text.2
  oneLine := v.newline_notMem_text
  read := v.itemValue_text

/-! ## Lists -/

section

variable {α : Type} {text : α → List Char} {value : α → Value} {items : List α}

theorem listText_cons (item next : α) (items : List α) :
    listText ((item :: next :: items).map text) =
      text item ++ ',' :: listText ((next :: items).map text) := rfl

theorem passes_listText (ends : EndsWord rest)
    (areItems : ∀ item ∈ items, IsItem (text item) (value item)) :
    Passes depth between between (listText (items.map text)) rest := by
  induction items with
  | nil => exact Passes.nil
  | cons item items ih =>
    obtain ⟨here, others⟩ := List.forall_mem_cons.mp areItems
    cases items with
    | nil => exact here.passes ends
    | cons next items =>
      exact .append (here.passes rfl) (.cons (passes_separator (by decide) _) (ih others))

theorem listPieces_listText {item : α}
    (areItems : ∀ other ∈ item :: items, IsItem (text other) (value other)) :
    listPieces .outside 0 (listText ((item :: items).map text)) = (item :: items).map text := by
  induction items generalizing item with
  | nil =>
    have alone := (areItems item List.mem_cons_self).together []
    rw [List.append_nil] at alone
    simpa [listText, listPieces, prepend] using alone
  | cons next items ih =>
    obtain ⟨here, others⟩ := List.forall_mem_cons.mp areItems
    have comma (rest : List Char) :
        listPieces .outside 0 (',' :: rest) = [] :: listPieces .outside 0 rest := by
      simp [listPieces]
    rw [listText_cons, here.together, comma, ih others]
    simp [prepend]

/-- The items of a list are the texts that it was written of. -/
theorem listItems_listText (areItems : ∀ item ∈ items, IsItem (text item) (value item)) :
    listItems (listText (items.map text)) = items.map text := by
  cases items with
  | nil => rfl
  | cons item items =>
    have trimmed : (item :: items).map (trim ∘ text) = (item :: items).map text :=
      List.map_congr_left fun other member =>
        trim_eq_self (areItems other member).first (areItems other member).ends.all
    rw [listItems, splitList, listPieces_listText areItems, List.map_map, trimmed,
      List.filter_eq_self]
    intro w member
    obtain ⟨other, listed, rfl⟩ := List.mem_map.mp member
    simpa using (areItems other listed).ne_nil

theorem notMem_listText {c : Char} (notComma : c ≠ ',') (absent : ∀ item ∈ items, c ∉ text item) :
    c ∉ listText (items.map text) := by
  induction items with
  | nil => simp [listText]
  | cons item items ih =>
    obtain ⟨here, others⟩ := List.forall_mem_cons.mp absent
    cases items with
    | nil => exact here
    | cons next items =>
      rw [listText_cons, List.mem_append, List.mem_cons, not_or, not_or]
      exact ⟨here, notComma, ih others⟩

/-! ## Membership -/

/-- What is written behind the field for it to be, or not to be, in a list. -/
def membershipTail (negated : Bool) (brackets : Brackets) (texts : List (List Char)) : List Char :=
  ' ' :: (notLetters negated ++
    (['I', 'N'] ++ ' ' :: brackets.opening :: (listText texts ++ [brackets.closing])))

/-- The filter that a field is, or is not, in a list. -/
def membershipFilter (negated : Bool) (field : String) (values : List Value) : Filter :=
  if negated then .notIn field values else .isIn field values

theorem passes_membershipTail (negated : Bool) (brackets : Brackets)
    (areItems : ∀ item ∈ items, IsItem (text item) (value item)) :
    Passes 0 between between (membershipTail negated brackets (items.map text)) rest := by
  have keyword : Passes 0 between between ['I', 'N']
      (' ' :: (brackets.opening :: (listText (items.map text) ++ [brackets.closing])) ++ rest) :=
    passes_keyword rfl rfl rfl
  refine .cons (passes_space _) (.append (passes_notLetters negated _) ?_)
  refine .append keyword (.cons (passes_space _) ?_)
  cases brackets with
  | round | square => exact passes_bracketed rfl rfl (passes_listText rfl areItems)

/-- A list is read as the values of its items, in their order. -/
theorem leafFilter_membership (scope : Scope) {f : List Char} (path : IsPath f) (negated : Bool)
    (brackets : Brackets) (areItems : ∀ item ∈ items, IsItem (text item) (value item)) :
    leafFilter scope (f ++ membershipTail negated brackets (items.map text)) =
      .ok (membershipFilter negated (scope.resolve (String.ofList f)) (items.map value)) := by
  have oneLine : '\n' ∉ listText (items.map text) :=
    notMem_listText (by decide) fun item member => (areItems item member).oneLine
  obtain ⟨noRange, list⟩ := shapes_membership path negated brackets oneLine
    (s := f ++ membershipTail negated brackets _) rfl
  have values : (items.map text).map itemValue = items.map value := by
    rw [List.map_map]
    exact List.map_congr_left fun item member => (areItems item member).read
  have something : (f ++ membershipTail negated brackets (items.map text)).isEmpty = false := by
    simp [membershipTail]
  simp only [leafFilter, something, noRange, list, listItems_listText areItems, values]
  rfl

end

end DocQuery.Condition

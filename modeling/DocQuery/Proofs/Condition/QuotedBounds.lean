import DocQuery.Proofs.Condition.WrittenConditions
import DocQuery.Proofs.Condition.PathComparison

/-! # Quoted bounds

A condition that a field lies between two strings in quotes, from its text to its filter. The AND
between the bounds is looked for twice: where the condition is cut, quotes are respected, and where
its shape is read, they are not. So the two agree unless the lower bound holds the word AND between
blanks; then it is torn apart there, and its quotes are left open.

* `operand_unclosed` — quotes that are not closed are a fault.
* `leafFilter_torn` — what is read of bounds of which the lower is torn apart.
* `between_quoted_iff` — when the filter is the range of the two strings.
* `between_quoted_can_fail` — a lower bound that is torn apart.
-/

namespace DocQuery.Condition

open DocQuery.Text

variable {scope : Scope} {filter : Filter} {f w tail : List Char} {low high : WrittenValue}

/-! ## Open quotes -/

theorem operand_unclosed {mark : Char} (isMark : isQuote mark = true) (absent : mark ∉ w)
    (idAllowed : Bool) : operand idAllowed (mark :: w) = .error .openQuote := by
  have solid := not_isBlank_of_isQuote isMark
  have notList : mark ≠ '[' := by
    rintro rfl
    cases isMark
  obtain ⟨front, isPrefix, -, trimmed⟩ := trim_append (s := [mark]) (by simp [solid])
    (by simp [EndsSolid, solid]) w
  have noLast : front.getLast? ≠ some mark :=
    fun last => absent (isPrefix.subset (List.mem_of_getLast? last))
  rw [List.singleton_append, List.singleton_append] at trimmed
  rw [operand, operandValue, trimmed]
  simp [notList, isMark, unquote?, noLast]

/-! ## Bounds -/

/-- Between BETWEEN and its AND, and behind it, nothing cuts. -/
theorem passes_boundsTail (low high : WrittenValue) (between : Bool) :
    Passes 0 between false (boundsTail low high) [] :=
  .append (s := ' ' :: JoiningWord.between.letters) (passes_between rfl) <|
    .cons (passes_space _) <| .append (low.passes rfl) <| .append (passes_bound rfl) <|
      .cons (passes_space _) (high.passes rfl)

/-- Behind AND between blanks an upper bound is read, whatever is around. -/
theorem upperBound?_isSome {b d : Char} {word : List Char} (blankBefore : isBlank b = true)
    (letters : word.map Char.toUpper = "AND".toList) (blankBehind : isBlank d = true)
    (oneLine : '\n' ∉ tail) (ends : EndsSolid tail) :
    ∃ bound, upperBound? (b :: word ++ d :: tail) = some bound := by
  have spelled : Spells "AND".toList word :=
    (spells_iff_map_toUpper (by decide) (by decide)).mpr letters
  have unbroken := spelled.unbroken (by decide)
  have first : (word ++ d :: tail).head?.all (!isBlank ·) = true := by
    cases word with
    | nil => cases letters
    | cons c word => simp [unbroken c List.mem_cons_self]
  have before : blanks? (b :: word ++ d :: tail) = some (word ++ d :: tail) := by
    rw [List.cons_append, blanks?, if_pos blankBefore, skipBlanks_eq_self first]
  have keyword : keyword? "AND" (word ++ d :: tail) = some (d :: tail) := letters?_append spelled
  have behind : blanks? (d :: tail) = some (skipBlanks tail) := by
    rw [blanks?, if_pos blankBehind]
  have inLine : '\n' ∉ skipBlanks tail :=
    fun member => oneLine ((List.dropWhile_suffix isBlank).subset member)
  have some_ : skipBlanks tail ≠ [] := by
    intro nothing
    have blanks := List.dropWhile_eq_nil_iff.mp nothing
    obtain ⟨c, last, solid⟩ := (Option.any_eq_true _ _).mp ends
    simp [blanks c (List.mem_of_getLast? last)] at solid
  refine ⟨skipBlanks tail, ?_⟩
  simp only [upperBound?, before, keyword, behind, someLine?, line?, bind, Option.bind_some]
  simp [inLine, some_]

/-- A lower bound that holds AND between blanks is cut there, and its quotes are left open. -/
theorem leafFilter_torn (path : IsPath f) (torn : ¬ low.IsLowerBound) (high : WrittenValue) :
    leafFilter scope (f ++ boundsTail low high) = .error .openQuote := by
  cases low with
  | string s noInstant =>
    simp only [WrittenValue.IsLowerBound, not_forall, not_not] at torn
    obtain ⟨front, b, word, d, back, content, blankBefore, blankBehind, letters⟩ := torn
    -- the quotes open, and in front of AND nothing closes them
    have quoteAbsent := content ▸ s.noQuote
    have newlineAbsent := content ▸ s.oneLine
    have bounds : s.text ++ ((' ' :: JoiningWord.and.letters) ++ ' ' :: high.text) =
        ('\'' :: front) ++ (b :: word ++ d ::
          (back ++ '\'' :: ((' ' :: JoiningWord.and.letters) ++ ' ' :: high.text))) := by
      simp [PlainText.text, content]
    simp only [List.mem_append, List.mem_cons, not_or] at quoteAbsent newlineAbsent
    have ends : EndsSolid (back ++ '\'' :: ((' ' :: JoiningWord.and.letters) ++ ' ' :: high.text)) :=
      .append <| .cons <| .append <| .cons high.solid_text.2
    have oneLine : '\n' ∉ back ++ '\'' :: ((' ' :: JoiningWord.and.letters) ++ ' ' :: high.text) := by
      simp [newlineAbsent, high.newline_notMem_text, letters_and]
    obtain ⟨bound, read⟩ := upperBound?_isSome blankBefore letters blankBehind oneLine ends
    obtain ⟨c, kept, left, answer, parts, cut⟩ := cutAt?_isSome (w := '\'' :: front)
      (List.cons_ne_nil _ _) (by simp [newlineAbsent]) read
    rw [List.cons_append, List.cons.injEq] at parts
    obtain ⟨rfl, rfl⟩ := parts
    have range := shapes_between path ((WrittenValue.string s noInstant).first_text _)
      (show f ++ boundsTail (.string s noInstant) high = _ from rfl)
    change between? _ = (cutAt? upperBound? (s.text ++ _)).map _ at range
    rw [bounds, cut, Option.map_some] at range
    have opened : operand false ('\'' :: kept) = .error .openQuote :=
      operand_unclosed rfl (fun member => quoteAbsent.1.1 (List.mem_append_left left member)) false
    have some_ : (f ++ boundsTail (.string s noInstant) high).isEmpty = false := by
      simp [boundsTail]
    simp [leafFilter, some_, range, opened, bind, Except.bind]
  | _ => exact absurd trivial torn

/-! ## Conditions -/

/-- A condition on a path with two bounds compiles if no connector is read in the path and the lower
bound is not torn apart, and then to that range. -/
theorem compileText_bounds_iff (path : path? f = some (f, [])) (low high : WrittenValue) :
    compileText scope (f ++ boundsTail low high) = .ok filter ↔
      cutConditions f = .ok ⟨f, []⟩ ∧ low.IsLowerBound ∧
        filter = .range (scope.resolve (String.ofList f)) low.value high.value := by
  have ends : EndsSolid (boundsTail low high) :=
    .cons <| .append <| .cons <| .append <| .append <| .cons high.solid_text.2
  refine (compileText_path_iff path (fun between before =>
    (passes_boundsTail low high between).whole before) ends).trans (and_congr_right fun _ => ?_)
  have isPath := (isPath_of_path? path).1
  change leafFilter scope (f ++ boundsTail low high) = _ ↔ _
  by_cases isLowerBound : low.IsLowerBound
  · rw [leafFilter_bounds isPath isLowerBound, Except.ok.injEq, eq_comm]
    exact (and_iff_right isLowerBound).symm
  · rw [leafFilter_torn isPath isLowerBound]
    exact iff_of_false nofun fun ⟨bound, _⟩ => isLowerBound bound

/-- A condition that a field lies between two texts in quotes. -/
def betweenQuoted (field : String) (low high : PlainText) : String :=
  field ++ " BETWEEN '" ++ low.content ++ "' AND '" ++ high.content ++ "'"

theorem toList_betweenQuoted (field : String) (low high : PlainText) (noLow noHigh) :
    (betweenQuoted field low high).toList =
      field.toList ++ boundsTail (.string low noLow) (.string high noHigh) := by
  have opening : " BETWEEN '".toList =
      ' ' :: (JoiningWord.between.letters ++ [' ', '\'']) := rfl
  have middle : "' AND '".toList = '\'' :: ' ' :: (JoiningWord.and.letters ++ [' ', '\'']) := rfl
  have closing : "'".toList = ['\''] := rfl
  have textLow : (WrittenValue.string low noLow).text = low.text := rfl
  have textHigh : (WrittenValue.string high noHigh).text = high.text := rfl
  simp only [betweenQuoted, String.toList_append, opening, middle, closing, boundsTail, textLow,
    textHigh, PlainText.text, List.append_assoc, List.cons_append, List.nil_append]

/-- No word AND stands between blanks in the text. -/
def PlainText.LacksAnd (s : PlainText) : Prop :=
  ∀ front b word d back, s.content.toList = front ++ b :: word ++ d :: back →
    isBlank b = true → isBlank d = true → word.map Char.toUpper ≠ "AND".toList

theorem compile_betweenQuoted_iff {field : String}
    (path : path? field.toList = some (field.toList, [])) {low high : PlainText}
    (noLow : ∀ t, Time.Instant.parseInternet low.content ≠ .ok t)
    (noHigh : ∀ t, Time.Instant.parseInternet high.content ≠ .ok t) :
    compile .rows [] (betweenQuoted field low high) = .ok filter ↔
      cutConditions field.toList = .ok ⟨field.toList, []⟩ ∧ low.LacksAnd ∧
        filter = .range field (.string low.content) (.string high.content) := by
  rw [compile_nil, toList_betweenQuoted field low high noLow noHigh, compileText_bounds_iff path,
    String.ofList_toList]
  rfl

/-- A field is between two quoted strings that are no timestamps exactly if no connector is read in
the name of the field and the lower bound does not hold the word AND between blanks; otherwise the
condition does not compile. No connector is read in a path whose segments are made of letters,
digits and underscores and are no joining words. -/
theorem between_quoted_iff {field : String}
    (path : path? field.toList = some (field.toList, [])) {low high : PlainText}
    (noLow : ∀ t, Time.Instant.parseInternet low.content ≠ .ok t)
    (noHigh : ∀ t, Time.Instant.parseInternet high.content ≠ .ok t) :
    (∀ filter, compile .rows [] (betweenQuoted field low high) = .ok filter ↔
      cutConditions field.toList = .ok ⟨field.toList, []⟩ ∧ low.LacksAnd ∧
        filter = .range field (.string low.content) (.string high.content)) ∧
    ((∀ segment ∈ splitAt '.' field.toList, IsPlainSegment segment) →
      (compile .rows [] (betweenQuoted field low high) =
          .ok (.range field (.string low.content) (.string high.content)) ↔ low.LacksAnd)) := by
  refine ⟨fun _ => compile_betweenQuoted_iff path noLow noHigh, fun plain => ?_⟩
  rw [compile_betweenQuoted_iff path noLow noHigh]
  simp [whole_of_segments plain]

/-- A text that ends with AND, and one that holds it between blanks. -/
def endsWithAnd : PlainText := ⟨"x AND", by decide, by decide, by decide⟩

def holdsAnd : PlainText := ⟨"a AND b", by decide, by decide, by decide⟩

theorem lacksAnd_endsWithAnd : endsWithAnd.LacksAnd := by
  intro front b word d back content blankBefore _ letters
  have characters : endsWithAnd.content.toList = ['x', ' ', 'A', 'N', 'D'] := rfl
  rw [characters] at content
  have long : word.length = 3 := by simpa using congrArg List.length letters
  have total := congrArg List.length content
  simp only [List.length_append, List.length_cons, List.length_nil, long] at total
  -- there is no room in front of the blank
  have start : front = [] := List.length_eq_zero_iff.mp (by omega)
  subst start
  have first : 'x' = b := Option.some.inj (congrArg List.head? content)
  subst first
  cases blankBefore

/-- An AND at the end of the lower bound and one between blanks in the upper bound do no harm. -/
theorem between_quoted_of_ands :
    compile .rows [] (betweenQuoted "a.b" endsWithAnd holdsAnd) =
      .ok (.range "a.b" (.string "x AND") (.string "a AND b")) := by
  have plain : ∀ segment ∈ splitAt '.' "a.b".toList, IsPlainSegment segment := by
    intro segment member
    have either : segment = ['a'] ∨ segment = ['b'] := by simpa [splitAt] using member
    rcases either with rfl | rfl <;> exact ⟨by decide, fun word => by cases word <;> decide⟩
  exact ((between_quoted_iff (by decide) (Time.Instant.parseInternet_short (by decide))
    (Time.Instant.parseInternet_short (by decide))).2 plain).mpr lacksAnd_endsWithAnd

/-- An AND between blanks in the lower bound is taken for the one between the bounds. -/
theorem between_quoted_can_fail :
    ¬ ∀ (field : String) (low high : PlainText), path? field.toList = some (field.toList, []) →
      (∀ segment ∈ splitAt '.' field.toList, ∀ word : JoiningWord,
        segment.map Char.toUpper ≠ word.letters) →
      '"' ∉ low.content.toList → '"' ∉ high.content.toList →
      (∀ t, Time.Instant.parseInternet low.content ≠ .ok t) →
      (∀ t, Time.Instant.parseInternet high.content ≠ .ok t) →
      compile .rows [] (betweenQuoted field low high) =
        .ok (.range field (.string low.content) (.string high.content)) := by
  intro always
  have other : ∀ segment ∈ splitAt '.' "f".toList, ∀ word : JoiningWord,
      segment.map Char.toUpper ≠ word.letters := by
    intro segment member word
    rw [List.mem_singleton.mp member]
    cases word <;> decide
  have noHold : ∀ t, Time.Instant.parseInternet holdsAnd.content ≠ .ok t :=
    Time.Instant.parseInternet_short (by decide)
  have noEnd : ∀ t, Time.Instant.parseInternet endsWithAnd.content ≠ .ok t :=
    Time.Instant.parseInternet_short (by decide)
  have compiled := always "f" holdsAnd endsWithAnd (by decide) other (by decide) (by decide)
    noHold noEnd
  have lacksAnd := ((compile_betweenQuoted_iff (by decide) noHold noEnd).mp compiled).2.1
  exact lacksAnd ['a'] ' ' ['A', 'N', 'D'] ' ' ['b'] rfl rfl rfl rfl

end DocQuery.Condition

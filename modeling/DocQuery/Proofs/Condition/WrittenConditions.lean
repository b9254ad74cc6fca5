import DocQuery.Proofs.Condition.Blank
import DocQuery.Proofs.Condition.Cut
import DocQuery.Proofs.Condition.ItemTexts

/-! # Reading written conditions

A written condition stays in one piece at the connectors around it, and is read as the filter that
it means. A chain of conditions is cut at its connectors and nowhere else, and compiles to its
meaning.

* `WrittenCondition.passes` — no connector cuts a condition.
* `IsOperandText` — a text that is read as an operand of a comparison, and its value.
* `leafFilter_operand`, `leafFilter_bounds` — the filters of a comparison and of a range.
* `WrittenCondition.leafFilter_text` — its filter.
* `Chain.cutConditions_text` — the pieces of a chain are its conditions.
* `compile_chain` — the filter of a chain.
-/

namespace DocQuery.Condition

open DocQuery.Text

variable {rest : List Char}

/-! ## Fields -/

namespace FieldWord

variable (word : FieldWord)

theorem passes {between : Bool} (ends : EndsWord rest) :
    Passes 0 between between word.text.toList rest :=
  passes_word (continuesWord_of_isAsciiName word.isName) (fun _ => word.notJoining) ends

end FieldWord

/-- Words with a point in front of each. -/
def pointed (words : List FieldWord) : List Char :=
  words.flatMap fun word => '.' :: word.text.toList

theorem pointed_cons (word : FieldWord) (words : List FieldWord) :
    pointed (word :: words) = '.' :: (word.text.toList ++ pointed words) := rfl

theorem passes_pointed (between : Bool) (ends : EndsWord rest) (words : List FieldWord) :
    Passes 0 between between (pointed words) rest ∧ EndsWord (pointed words ++ rest) := by
  induction words with
  | nil => exact ⟨Passes.nil, ends⟩
  | cons word words ih =>
    obtain ⟨passes, ends⟩ := ih
    refine ⟨?_, rfl⟩
    rw [pointed_cons]
    exact (passes_separator (by decide) _).cons ((word.passes ends).append passes)

theorem pathTail_pointed (words : List FieldWord) (rest : List Char) :
    pathTail (pointed words ++ ' ' :: rest) = (pointed words, ' ' :: rest) := by
  induction words with
  | nil => rfl
  | cons word words ih =>
    rw [pointed_cons, List.cons_append, List.append_assoc, pathTail_name word.isName.toIsName, ih]

namespace FieldPath

variable (path : FieldPath)

theorem passes {between : Bool} (ends : EndsWord rest) :
    Passes 0 between between path.text rest := by
  obtain ⟨others, ends⟩ := passes_pointed between ends path.others
  exact (path.first.passes ends).append others

theorem isPath_text : IsPath path.text := by
  intro rest
  obtain ⟨nonempty, members⟩ := path.first.isName.toIsName
  obtain ⟨c, w, same⟩ := List.exists_cons_of_ne_nil nonempty
  have text : path.text = c :: (w ++ pointed path.others) := by
    rw [FieldPath.text, same]
    rfl
  rw [same] at members
  obtain ⟨here, others⟩ := List.forall_mem_cons.mp members
  rw [text, List.cons_append, List.append_assoc]
  simp [path?, here, pathTail_word others, pathTail_pointed]

theorem first_text (rest : List Char) : (path.text ++ rest).head?.all (!isBlank ·) = true := by
  obtain ⟨nonempty, members⟩ := path.first.isName.toIsName
  obtain ⟨c, w, same⟩ := List.exists_cons_of_ne_nil nonempty
  have solid := isBlank_of_isWordChar (members c (same ▸ List.mem_cons_self))
  simp [FieldPath.text, same, solid]

theorem text_ne_nil : path.text ≠ [] := by
  simp [text, path.first.isName.nonempty]

end FieldPath

/-! ## Passing -/

namespace WrittenCondition

/-- Nothing in a condition cuts it. -/
theorem passes (condition : WrittenCondition) (ends : EndsWord rest) :
    Passes 0 false false condition.text rest := by
  cases condition with
  | comparison field op operand isOperand =>
    rw [text_comparison]
    exact .append (field.passes rfl) <| .cons (passes_space _) <| .append (passes_sign op _) <|
      .cons (passes_space _) (operand.passes ends)
  | between field low high isLowerBound =>
    rw [text_between]
    -- from BETWEEN to its AND the scan expects that AND
    exact .append (field.passes rfl) <| .append (passes_between rfl) <| .cons (passes_space _) <|
      .append (low.passes rfl) <| .append (passes_bound rfl) <| .cons (passes_space _)
        (high.passes ends)
  | membership field negated items =>
    rw [text_membership]
    exact .append (field.passes rfl) <|
      passes_membershipTail negated .round fun item _ => item.isItem
  | presence field expected =>
    rw [text_presence]
    refine .append (field.passes rfl) <| .cons (passes_space _) ?_
    exact .append (passes_keyword (w := ['I', 'S']) rfl rfl rfl) <| .cons (passes_space _) <|
      .append (passes_notLetters expected _) (passes_keyword rfl rfl ends)
  | pattern field source =>
    rw [text_pattern]
    refine .append (field.passes rfl) <| .cons (passes_space _) ?_
    exact .append (passes_keyword (w := ['L', 'I', 'K', 'E']) rfl rfl rfl) <|
      .cons (passes_space _) (passes_quoted rfl source.inside rest)

end WrittenCondition

/-! ## Comparisons -/

/-- A text that stays in one piece behind a sign, and is read as the operand. -/
structure IsOperandText (op : Comparison) (w : List Char) (value : Value) : Prop where
  passes : ∀ between, Passes 0 between between w []
  first : w.head?.all (!isBlank ·) = true
  ends : EndsSolid w
  oneLine : '\n' ∉ w
  something : isNothing w = false
  read : operand (op == .eq) w = .ok value

theorem WrittenValue.isOperandText {op : Comparison} {v : WrittenValue}
    (isOperand : v.IsOperand op) :
    IsOperandText op v.text v.value where
  passes _ := v.passes rfl
  first := by simpa using v.first_text []
  ends := v.solid_text.2
  oneLine := v.newline_notMem_text
  something := (read_isOperand isOperand).1
  read := (read_isOperand isOperand).2

/-- What is behind the field of a comparison. -/
def comparisonTail (op : Comparison) (w : List Char) : List Char :=
  ' ' :: (op.sign.toList ++ ' ' :: w)

theorem leafFilter_operand {scope : Scope} {f w : List Char} {op : Comparison} {value : Value}
    (path : IsPath f) (isOperand : IsOperandText op w value) :
    leafFilter scope (f ++ comparisonTail op w) =
      .ok (.compare op (scope.resolve (String.ofList f)) value) := by
  obtain ⟨noRange, noList, noPresence, noPattern, compared⟩ :=
    shapes_comparison path op (show f ++ comparisonTail op w = _ from rfl)
  have line : line? (skipBlanks w) = some w := by
    rw [skipBlanks_eq_self isOperand.first, line?, if_neg (by simpa using isOperand.oneLine)]
  have trimmed : trim w = w := trim_eq_self isOperand.first isOperand.ends.all
  have some_ : (f ++ comparisonTail op w).isEmpty = false := by simp [comparisonTail]
  simp [leafFilter, some_, noRange, noList, noPresence, noPattern, compared, line,
    comparisonFilter, trimmed, isOperand.something, isOperand.read, Except.map]

/-! ## Bounds -/

theorem upperBound?_solid {c : Char} (solid : isBlank c = false) (s : List Char) :
    upperBound? (c :: s) = none := by
  simp [upperBound?, blanks?, solid]

/-- An upper bound is read behind AND between blanks. -/
theorem upperBound?_eq_some {s high : List Char} (read : upperBound? s = some high) :
    ∃ front b word d back, s = (front ++ b :: word ++ [d]) ++ back ∧
      (∀ c ∈ front ++ b :: word ++ [d], c ≠ '\'') ∧
      isBlank b = true ∧ isBlank d = true ∧ word.map Char.toUpper = "AND".toList := by
  simp only [upperBound?, bind, Option.bind_eq_some_iff] at read
  obtain ⟨s₁, blanks, s₂, keyword, s₃, next, -⟩ := read
  obtain ⟨front, b, rfl, before⟩ := blanks?_eq_some blanks
  obtain ⟨word, rfl, spelled⟩ := letters?_eq_some keyword
  have letters := (spells_iff_map_toUpper (by decide) (by decide)).mp spelled
  cases s₂ with
  | nil => cases next
  | cons d back =>
    have after : isBlank d = true := by
      by_contra solid
      simp [blanks?, solid] at next
    refine ⟨front, b, word, d, back, by simp, ?_, before b (by simp), after, letters⟩
    rintro c member rfl
    simp only [List.mem_append, List.mem_cons, List.not_mem_nil, or_false] at member
    rcases member with (inFront | rfl | inWord) | rfl
    · exact absurd (before _ (List.mem_append_left _ inFront)) (by decide)
    · exact absurd (before '\'' (by simp)) (by decide)
    · have upper := List.mem_map_of_mem (f := Char.toUpper) inWord
      rw [letters] at upper
      exact absurd upper (by decide)
    · exact absurd after (by decide)

/-- What holds no mark is written before the first mark. -/
theorem append_prefix {mark : Char} {p q s t : List Char} (absent : mark ∉ p)
    (same : q ++ mark :: s = p ++ t) : ∃ r, q = p ++ r := by
  rcases List.append_eq_append_iff.mp same with ⟨r, rfl, more⟩ | ⟨r, rfl, -⟩
  · cases r with
    | nil => exact ⟨[], by simp⟩
    | cons c r =>
      cases more
      simp at absent
  · exact ⟨r, rfl⟩

/-- Inside a lower bound no upper bound begins. -/
theorem upperBound?_inside {v : WrittenValue} (isLowerBound : v.IsLowerBound)
    {front back : List Char} (before : front ≠ []) (some_ : back ≠ [])
    (cut : v.text = front ++ back) (rest : List Char) : upperBound? (back ++ rest) = none := by
  by_cases bare : ∀ s noInstant, v ≠ .string s noInstant
  · obtain ⟨c, back, rfl⟩ := List.exists_cons_of_ne_nil some_
    exact upperBound?_solid (v.unbroken_text bare c (by simp [cut])) (back ++ rest)
  · push Not at bare
    obtain ⟨s, noInstant, rfl⟩ := bare
    obtain ⟨c, front, rfl⟩ := List.exists_cons_of_ne_nil before
    obtain ⟨back, last, rfl⟩ := (List.eq_nil_or_concat' back).resolve_left some_
    change '\'' :: (s.content.toList ++ ['\'']) = _ at cut
    rw [List.cons_append, List.cons.injEq, ← List.append_assoc] at cut
    obtain ⟨content, mark⟩ := List.append_inj' cut.2 rfl
    cases mark
    -- what is read in front of the bound ends before the closing mark
    by_contra found
    obtain ⟨high, read⟩ := Option.ne_none_iff_exists'.mp found
    obtain ⟨more, b, word, d, tail, same, unquoted, blankBefore, blankBehind, letters⟩ :=
      upperBound?_eq_some read
    rw [List.append_assoc] at same
    obtain ⟨r, rfl⟩ := append_prefix (fun member => unquoted _ member rfl) same
    refine isLowerBound (front ++ more) b word d r ?_ blankBefore blankBehind letters
    simp [content]

theorem upperBound?_and (high : WrittenValue) :
    upperBound? ((' ' :: JoiningWord.and.letters) ++ ' ' :: high.text) = some high.text := by
  have skipped := high.skipBlanks_text
  have line : someLine? high.text = some high.text := by
    simp [someLine?, line?, high.text_ne_nil, high.newline_notMem_text]
  have blank : blanks? (' ' :: high.text) = some high.text := by
    simp [blanks?, show isBlank ' ' = true from rfl, skipped]
  have word : keyword? "AND" (JoiningWord.and.letters ++ ' ' :: high.text) =
    some (' ' :: high.text) := rfl
  have front : blanks? ((' ' :: JoiningWord.and.letters) ++ ' ' :: high.text) =
    some (JoiningWord.and.letters ++ ' ' :: high.text) := rfl
  simp only [upperBound?, front, word, blank, line, bind, Option.bind_some]

theorem cutAt?_bounds {low : WrittenValue} (isLowerBound : low.IsLowerBound)
    (high : WrittenValue) :
    cutAt? upperBound? (low.text ++ ((' ' :: JoiningWord.and.letters) ++ ' ' :: high.text)) =
      some (low.text, high.text) :=
  cutAt?_first low.text_ne_nil low.newline_notMem_text (upperBound?_and high)
    fun _ _ before some_ cut => upperBound?_inside isLowerBound before some_ cut _

/-- BETWEEN and two bounds. -/
def boundsTail (low high : WrittenValue) : List Char :=
  ' ' :: (JoiningWord.between.letters ++ ' ' :: (low.text ++
    ((' ' :: JoiningWord.and.letters) ++ ' ' :: high.text)))

/-- The bounds are read as they were written. -/
theorem leafFilter_bounds {scope : Scope} {f : List Char} (path : IsPath f) {low : WrittenValue}
    (isLowerBound : low.IsLowerBound) (high : WrittenValue) :
    leafFilter scope (f ++ boundsTail low high) =
      .ok (.range (scope.resolve (String.ofList f)) low.value high.value) := by
  have range := shapes_between path (low.first_text _)
    (show f ++ boundsTail low high = _ from rfl)
  rw [cutAt?_bounds isLowerBound high] at range
  have readLow : operand false low.text = .ok low.value := low.operand_text (by simp)
  have readHigh : operand false high.text = .ok high.value := high.operand_text (by simp)
  have some_ : (f ++ boundsTail low high).isEmpty = false := by simp [boundsTail]
  simp [leafFilter, some_, range, readLow, readHigh, bind, Except.bind]

/-! ## Filters -/

namespace WrittenCondition

theorem first_text (condition : WrittenCondition) (rest : List Char) :
    (condition.text ++ rest).head?.all (!isBlank ·) = true := by
  cases condition with
  | comparison field | between field | membership field | presence field | pattern field =>
    simp only [text, List.append_assoc]
    exact field.first_text _

theorem endsSolid_text (condition : WrittenCondition) : EndsSolid condition.text := by
  cases condition with
  | comparison field op operand isOperand =>
    rw [text_comparison]
    exact .append <| .cons <| .append <| .cons operand.solid_text.2
  | between field low high isLowerBound =>
    rw [text_between]
    exact .append <| .append <| .cons <| .append <| .append <| .cons high.solid_text.2
  | membership field negated items =>
    rw [text_membership]
    exact .append <| .cons <| .append <| .append <| .cons <| .cons <| .append rfl
  | presence field expected =>
    rw [text_presence]
    exact .append <| .cons <| .append <| .cons <| .append rfl
  | pattern field source =>
    rw [text_pattern]
    exact .append <| .cons <| .append <| .cons <| .cons <| .append rfl

theorem trim_text (condition : WrittenCondition) : trim condition.text = condition.text :=
  trim_eq_self (by simpa using condition.first_text []) condition.endsSolid_text.all

theorem text_ne_nil (condition : WrittenCondition) : condition.text ≠ [] := by
  intro none
  have ends := condition.endsSolid_text
  rw [none] at ends
  cases ends

/-- A condition is read as the filter that it means. -/
theorem leafFilter_text (scope : Scope) (condition : WrittenCondition) :
    leafFilter scope condition.text = .ok (condition.filter scope) := by
  have something : condition.text.isEmpty = false := by simpa using condition.text_ne_nil
  cases condition with
  | comparison field op operand isOperand =>
    rw [text_comparison]
    exact leafFilter_operand field.isPath_text (WrittenValue.isOperandText isOperand)
  | between field low high isLowerBound =>
    rw [text_between]
    exact leafFilter_bounds field.isPath_text isLowerBound high
  | membership field negated items =>
    rw [text_membership]
    exact leafFilter_membership scope field.isPath_text negated .round fun item _ => item.isItem
  | presence field expected =>
    obtain ⟨noRange, noList, presence⟩ :=
      shapes_presence field.isPath_text expected (text_presence field expected)
    simp [leafFilter, something, noRange, noList, presence, filter]
  | pattern field source =>
    obtain ⟨noRange, noList, noPresence, pattern⟩ :=
      shapes_pattern field.isPath_text source.oneLine (text_pattern field source)
    simp [leafFilter, something, noRange, noList, noPresence, pattern, filter]

end WrittenCondition

variable {s : List Char}

/-! ## Pieces -/

theorem trim_append_space (first : (s ++ [' ']).head?.all (!isBlank ·) = true)
    (last : s.getLast?.all (!isBlank ·) = true) : trim (s ++ [' ']) = s := by
  have back : s.reverse.dropWhile isBlank = s.reverse := skipBlanks_eq_self (by simpa using last)
  rw [trim, skipBlanks_eq_self first, List.reverse_append]
  simp [back, show isBlank ' ' = true from rfl]

/-- Conditions, each behind its connector. -/
def connected (others : List (Connector × WrittenCondition)) : List Char :=
  others.flatMap fun (connector, condition) =>
    ' ' :: (connector.word.letters ++ ' ' :: condition.text)

theorem connected_cons (connector : Connector) (condition : WrittenCondition)
    (others : List (Connector × WrittenCondition)) :
    connected ((connector, condition) :: others) =
      ' ' :: (connector.word.letters ++ ' ' :: (condition.text ++ connected others)) := by
  simp [connected]

/-- A connector ends the piece in front of its blank, and the blank behind it begins the next. -/
theorem cutFrom_connected (connector : Connector) (s : List Char) (before : Option Char) :
    ∃ after, cutFrom .outside 0 false before (' ' :: (connector.word.letters ++ ' ' :: s)) =
      (cutFrom .outside 0 false after s).map
        fun pieces => ⟨[' '], (connector, ' ' :: pieces.first) :: pieces.others⟩ := by
  obtain ⟨after, passed⟩ := cutFrom_connector connector (show EndsWord (' ' :: s) from rfl)
  refine ⟨some ' ', ?_⟩
  rw [cutFrom_space, passed, cutFrom_space]
  cases cutFrom .outside 0 false (some ' ') s <;> rfl

/-- The pieces between connectors are the conditions. -/
theorem cutFrom_conditions (condition : WrittenCondition)
    (others : List (Connector × WrittenCondition)) (before : Option Char) :
    ∃ pieces, cutFrom .outside 0 false before (condition.text ++ connected others) = .ok pieces ∧
      pieces.toList.map trim = (condition :: others.map (·.2)).map WrittenCondition.text ∧
      pieces.others.map (·.1) = others.map (·.1) := by
  induction others generalizing condition before with
  | nil =>
    obtain ⟨after, passed⟩ := condition.passes (show EndsWord [] from rfl) before
    refine ⟨⟨condition.text ++ [], []⟩, ?_, by simpa [Pieces.toList] using condition.trim_text, rfl⟩
    rw [connected, List.flatMap_nil, passed, cutFrom]
    rfl
  | cons other others ih =>
    obtain ⟨connector, next⟩ := other
    have ends : EndsWord (connected ((connector, next) :: others)) := rfl
    obtain ⟨middle, passed⟩ := condition.passes ends before
    obtain ⟨after, cut⟩ := cutFrom_connected connector (next.text ++ connected others) middle
    obtain ⟨pieces, later, texts, connectors⟩ := ih next after
    refine ⟨⟨condition.text ++ [' '], (connector, ' ' :: pieces.first) :: pieces.others⟩, ?_, ?_,
      congrArg (connector :: ·) connectors⟩
    · rw [passed, connected_cons, cut, later]
      rfl
    · have first : trim (condition.text ++ [' ']) = condition.text :=
        trim_append_space (condition.first_text [' ']) condition.endsSolid_text.all
      -- the blank in front of the next piece is trimmed too
      change trim (condition.text ++ [' ']) :: pieces.toList.map trim = _
      rw [first, texts]
      rfl

namespace Chain

theorem text_eq (chain : Chain) : chain.text = chain.first.text ++ connected chain.others := rfl

theorem trim_text (chain : Chain) : trim chain.text = chain.text := by
  have last : ∀ others, EndsSolid (chain.first.text ++ connected others) := by
    intro others
    induction others using List.reverseRecOn with
    | nil => simpa [connected] using chain.first.endsSolid_text
    | append_singleton others other _ =>
      rw [connected, List.flatMap_append, List.flatMap_singleton]
      exact .append <| .append <| .cons <| .append <| .cons other.2.endsSolid_text
  exact trim_eq_self (chain.first.first_text _) (last chain.others).all

/-- Without connectors a chain is one condition. -/
theorem others_eq_nil_iff {chain : Chain} :
    chain.others = [] ↔ ¬ chain.Has .and ∧ ¬ chain.Has .or := by
  constructor
  · intro none
    simp [Has, none]
  · rintro ⟨noAnd, noOr⟩
    rw [List.eq_nil_iff_forall_not_mem]
    rintro ⟨connector, condition⟩ member
    cases connector with
    | and => exact noAnd ⟨condition, member⟩
    | or => exact noOr ⟨condition, member⟩

/-- A chain is cut into its conditions. -/
theorem cutConditions_text (chain : Chain) :
    ∃ pieces, cutConditions chain.text = .ok pieces ∧
      pieces.toList.map trim = chain.conditions.map WrittenCondition.text ∧
      ∀ connector, pieces.has connector = decide (chain.Has connector) := by
  obtain ⟨pieces, cut, texts, connectors⟩ := cutFrom_conditions chain.first chain.others none
  refine ⟨pieces, cut, texts, fun connector => ?_⟩
  have has : pieces.has connector = (pieces.others.map (·.1)).any (· == connector) := by
    simp [Pieces.has, Function.comp_def]
  rw [has, connectors, Bool.eq_iff_iff, decide_eq_true_eq]
  simp [Has]

end Chain

/-! ## Filters -/

theorem mapM_pieceFilter (scope : Scope) {pieces : List (List Char)}
    {conditions : List WrittenCondition}
    (texts : pieces.map trim = conditions.map WrittenCondition.text) :
    pieces.mapM (pieceFilter scope) = .ok (conditions.map (·.filter scope)) := by
  induction pieces generalizing conditions with
  | nil =>
    cases conditions with
    | nil => rfl
    | cons condition conditions => cases texts
  | cons piece pieces ih =>
    cases conditions with
    | nil => cases texts
    | cons condition conditions =>
      rw [List.map_cons, List.map_cons, List.cons.injEq] at texts
      have first : pieceFilter scope piece = .ok (condition.filter scope) := by
        rw [pieceFilter_eq_ok_iff, texts.1, condition.leafFilter_text]
      rw [List.mapM_cons, first, ih texts.2]
      rfl

/-- A condition without parameters is compiled as it stands. -/
theorem compile_nil (scope : Scope) (text : String) :
    compile scope [] text = compileText scope text.toList := by
  simp [compile, Parameters.substitute, Parameters.ordered]

/-- The compiler of conditions inverts their grammar: a chain of conditions compiles to its meaning,
and is refused exactly if it has both kinds of connectors. -/
theorem compile_chain (scope : Scope) (chain : Chain) :
    compile scope [] (String.ofList chain.text) = chain.meaning scope := by
  obtain ⟨pieces, cut, texts, has⟩ := chain.cutConditions_text
  have filters := mapM_pieceFilter scope texts
  have something : chain.text.isEmpty = false := by
    simp [Chain.text_eq, chain.first.text_ne_nil]
  rw [compile_nil, String.toList_ofList, compileText, chain.trim_text]
  simp only [something, cut, has, filters, reporting, bind, Except.bind]
  cases others : chain.others with
  | nil =>
    obtain ⟨noAnd, noOr⟩ := Chain.others_eq_nil_iff.mp others
    simp [Chain.meaning, Chain.conditions, others, noAnd, noOr, pure, Except.pure]
  | cons other more =>
    have joined : chain.Has .and ∨ chain.Has .or := by
      by_contra neither
      rw [not_or] at neither
      rw [Chain.others_eq_nil_iff.mpr neither] at others
      cases others
    by_cases hasAnd : chain.Has .and <;> by_cases hasOr : chain.Has .or
    · simp [Chain.meaning, hasAnd, hasOr, throw, throwThe, MonadExceptOf.throw]
    · simp [Chain.meaning, Chain.conditions, others, hasAnd, hasOr, pure, Except.pure]
    · simp [Chain.meaning, Chain.conditions, others, hasAnd, hasOr, pure, Except.pure]
    · exact absurd joined (not_or.mpr ⟨hasAnd, hasOr⟩)

end DocQuery.Condition

import DocQuery.Condition.Compile
import DocQuery.Proofs.Text.Words

/-! # Operands

How the text of a value is read in a condition: as a text in quotes, or as a bare literal.

* `operand_quoted`, `itemValue_quoted` — in quotes, the text between them counts.
* `operand_bare`, `itemValue_bare` — without quotes, the text is a literal.
* `bareValue_eq` — the rules of literals that are left for a text of no special form.
-/

namespace DocQuery.Condition

open DocQuery.Text

variable {c mark : Char} {s inner : List Char}

/-! ## Quotes -/

theorem unquote?_quoted (isMark : isQuote mark = true) (inner : List Char) :
    unquote? (mark :: (inner ++ [mark])) = some inner := by
  simp [unquote?, isMark]

theorem unquote?_of_first (other : isQuote c = false) (rest : List Char) :
    unquote? (c :: rest) = none := by
  simp [unquote?, other]

theorem not_isBlank_of_isQuote (isMark : isQuote mark = true) : isBlank mark = false := by
  simp only [isQuote, Bool.or_eq_true, beq_iff_eq] at isMark
  rcases isMark with rfl | rfl <;> rfl

theorem trim_quoted (isMark : isQuote mark = true) (inner : List Char) :
    trim (mark :: (inner ++ [mark])) = mark :: (inner ++ [mark]) := by
  have solid := not_isBlank_of_isQuote isMark
  apply trim_eq_self
  · simp [solid]
  · rw [← List.cons_append, List.getLast?_concat]
    simp [solid]

/-- Without a backslash nothing is escaped. -/
theorem unescape_absent (absent : '\\' ∉ s) : unescape mark s = s := by
  fun_induction unescape mark s with
  | case1 | case2 => rfl
  | case3 c d rest escapes ih =>
    simp only [Bool.and_eq_true, beq_iff_eq] at escapes
    exact absurd (escapes.1 ▸ List.mem_cons_self) absent
  | case4 c d rest plain ih => rw [ih (List.not_mem_of_not_mem_cons absent)]

/-! ## Values -/

theorem operand_quoted (isMark : isQuote mark = true) (inner : List Char) (idAllowed : Bool) :
    operand idAllowed (mark :: (inner ++ [mark])) =
      .ok (quotedValue (unescape mark inner) idAllowed) := by
  have notList : mark ≠ '[' := by
    rintro rfl
    cases isMark
  rw [operand, operandValue, trim_quoted isMark]
  simp [notList, isMark, unquote?_quoted isMark]

theorem operand_bare {rest : List Char} (trimmed : trim (c :: rest) = c :: rest)
    (notQuote : isQuote c = false) (notList : c ≠ '[') (idAllowed : Bool) :
    operand idAllowed (c :: rest) = .ok (bareValue (c :: rest)) := by
  rw [operand, operandValue, trimmed]
  simp [notQuote, notList]

theorem itemValue_quoted (isMark : isQuote mark = true) (inner : List Char) :
    itemValue (mark :: (inner ++ [mark])) = quotedValue (unescape mark inner) false := by
  simp [itemValue, unquote?_quoted isMark]

theorem itemValue_bare (notQuote : isQuote c = false) (rest : List Char) :
    itemValue (c :: rest) = bareValue (c :: rest) := by
  simp [itemValue, unquote?_of_first notQuote]

/-- Two quotation marks with something between them are not nothing. -/
theorem isNothing_quoted (nonempty : inner ≠ []) :
    isNothing (mark :: (inner ++ [mark])) = false := by
  obtain ⟨c, rest, rfl⟩ := List.exists_cons_of_ne_nil nonempty
  simp [isNothing]

theorem isNothing_of_first (other : isQuote c = false) (rest : List Char) :
    isNothing (c :: rest) = false := by
  have different : c ≠ '\'' ∧ c ≠ '"' := by
    simpa [isQuote] using other
  simp [isNothing, different]

/-! ## Literals -/

/-- The rules that are left for a text that is neither quoted nor one of the words. -/
theorem bareValue_eq (trimmed : trim s = s) (nonempty : s ≠ []) (notQuoted : unquote? s = none)
    (noWord : Literal.word? (String.ofList s) = none) :
    bareValue s = ((((Literal.objectIdCall? s).map Literal.objectId) <|> (Literal.integer? s) <|>
      (Literal.double? s) <|> ((Time.Instant.parse? (String.ofList s)).map Literal.instant)).getD
        (.string (String.ofList s))).toValue := by
  obtain ⟨c, rest, same⟩ := List.exists_cons_of_ne_nil nonempty
  rw [bareValue, Literal.parse, String.toList_ofList, trimmed]
  subst same
  simp only [notQuoted, noWord]
  rfl

/-- No word begins with any other letter. -/
theorem word?_of_first (other : c.toLower ∉ ['n', 't', 'f']) (rest : List Char) :
    Literal.word? (String.ofList (c :: rest)) = none := by
  simp only [List.mem_cons, List.not_mem_nil, or_false, not_or] at other
  have differs (word : String) {k : Char} {ks : List Char}
      (letters : word.toList.map Char.toLower = k :: ks) (notFirst : c.toLower ≠ k) :
      eqIgnoreCase (String.ofList (c :: rest)) word = false := by
    simp [eqIgnoreCase, letters, notFirst]
  rw [Literal.word?, differs "null" rfl other.1, differs "true" rfl other.2.1,
    differs "false" rfl other.2.2]
  rfl

theorem objectIdCall?_of_first (other : c ≠ 'O') (rest : List Char) :
    Literal.objectIdCall? (c :: rest) = none := by
  have letters : "ObjectId(".toList = 'O' :: "bjectId(".toList := rfl
  simp [Literal.objectIdCall?, letters, Ne.symm other]

end DocQuery.Condition

import DocQuery.Proofs.Condition.Quoted
import DocQuery.Proofs.Text.Names

/-! # One string parameter

What becomes of a comparison with one parameter when a string is bound to it: the marked name is
replaced once, and nothing in the string is replaced again.

* `writtenComparison` — a comparison of a field with a string, as it is read.
* `Parameters.substitute_last` — a text with a parameter at its end.
* `Parameters.substitute_comparison` — a comparison with its parameter written in.
-/

namespace DocQuery

open DocQuery.Text Condition

/-- The sign of a comparison. -/
def Comparison.sign : Comparison → String
  | .eq => "="
  | .ne => "!="
  | .gt => ">"
  | .gte => ">="
  | .lt => "<"
  | .lte => "<="

/-- A comparison of a field with a string in quotes. -/
def writtenComparison (field : String) (op : Comparison) (s : String) : List Char :=
  field.toList ++ ' ' :: (op.sign.toList ++ ' ' :: '"' :: (escaped s.toList ++ ['"']))

namespace Parameters

variable {needle written s front : List Char} {name value : String}

/-! ## Replacing -/

theorem replaceFrom_drop (needle written : List Char) (skip : Nat) (s : List Char) :
    replaceFrom needle written skip s = replaceFrom needle written 0 (s.drop skip) := by
  induction skip generalizing s with
  | zero => rfl
  | succ skip ih =>
    cases s with
    | nil => rfl
    | cons c rest => rw [replaceFrom, ih, List.drop_succ_cons]

theorem replaceAll_absent (absent : ¬ needle <:+: s) : replaceAll needle written s = s := by
  unfold replaceAll
  induction s with
  | nil => rfl
  | cons c rest ih =>
    rw [List.infix_cons_iff, not_or] at absent
    rw [replaceFrom, if_neg (by simpa using absent.1), ih absent.2]

theorem replaceAll_end {mark : Char} {letters : List Char} (absent : mark ∉ front) :
    replaceAll (mark :: letters) written (front ++ mark :: letters) = front ++ written := by
  unfold replaceAll
  induction front with
  | nil => simp [replaceFrom, replaceFrom_drop _ _ letters.length]
  | cons c rest ih =>
    rw [List.mem_cons, not_or] at absent
    simp [replaceFrom, absent.1, ih absent.2]

/-! ## Occurrences in quotes -/

theorem prefix_of_escaped {tail : List Char} (plain : ∀ c ∈ needle, c ≠ '"' ∧ c ≠ '\\')
    (found : needle <+: escaped s ++ '"' :: tail) : needle <+: s := by
  induction needle generalizing s with
  | nil => exact List.nil_prefix
  | cons c rest ih =>
    obtain ⟨⟨notQuote, notBackslash⟩, others⟩ := List.forall_mem_cons.mp plain
    cases s with
    | nil => simp [List.cons_prefix_cons, notQuote] at found
    | cons d s =>
      -- what is written for a quote begins with a backslash, which the needle has not
      by_cases quote : d = '"'
      · simp [quote, List.cons_prefix_cons, notBackslash] at found
      · simp only [escaped_cons quote, List.cons_append, List.cons_prefix_cons] at found ⊢
        exact ⟨found.1, ih others found.2⟩

/-- Quoting a string adds no occurrence of a text without quotes and backslashes. -/
theorem infix_of_escaped (some_ : needle ≠ []) (plain : ∀ c ∈ needle, c ≠ '"' ∧ c ≠ '\\')
    (found : needle <:+: escaped s ++ ['"']) : needle <:+: s := by
  obtain ⟨c, rest, rfl⟩ := List.exists_cons_of_ne_nil some_
  obtain ⟨notQuote, notBackslash⟩ := plain c List.mem_cons_self
  induction s with
  | nil => simp [List.infix_cons_iff, List.cons_prefix_cons, notQuote] at found
  | cons d s ih =>
    by_cases quote : d = '"'
    · subst quote
      simp only [escaped_quote, List.cons_append, List.infix_cons_iff, List.cons_prefix_cons,
        notQuote, notBackslash, false_and, false_or] at found
      exact List.infix_cons (ih found)
    · rw [escaped_cons quote, List.cons_append, List.infix_cons_iff, ← List.cons_append,
        ← escaped_cons quote] at found
      rcases found with here | later
      · exact (prefix_of_escaped plain here).isInfix
      · exact List.infix_cons (ih later)

theorem infix_of_append {mark : Char} {letters back : List Char} (absent : mark ∉ front)
    (found : mark :: letters <:+: front ++ back) : mark :: letters <:+: back := by
  induction front with
  | nil => exact found
  | cons c rest ih =>
    rw [List.mem_cons, not_or] at absent
    rw [List.cons_append, List.infix_cons_iff, List.cons_prefix_cons] at found
    exact ih absent.2 (found.resolve_left fun here => absent.1 here.1)

/-! ## The comparison -/

theorem isMark_of_isWordChar {c : Char} (member : isWordChar c = true) : isMark c = false := by
  by_contra mark
  rw [Bool.not_eq_false, isMark, Bool.or_eq_true, beq_iff_eq, beq_iff_eq] at mark
  rcases mark with rfl | rfl <;> revert member <;> decide

theorem ordered_single (named : IsName name) (v : Value) : ordered [(name, v)] = [(name, v)] := by
  obtain ⟨nonempty, members⟩ := named
  have kept : name.toList.dropWhile isMark = name.toList := by
    obtain ⟨c, rest, same⟩ := List.exists_cons_of_ne_nil nonempty
    have notMark := isMark_of_isWordChar (members c (same ▸ List.mem_cons_self))
    rw [same, List.dropWhile_cons_of_neg (by simp [notMark])]
  have filled : (name != "") = true := by
    rw [bne_iff_ne]
    rintro rfl
    exact nonempty rfl
  simp [ordered, kept, filled]

theorem isMark_of_sign (op : Comparison) {c : Char} (member : c ∈ op.sign.toList) :
    isMark c = false := by
  have none : (op.sign.toList.all (!isMark ·)) = true := by cases op <;> decide
  simpa using List.all_eq_true.mp none c member

/-- A value that is bound to the only parameter, at the end of a text, is written in its place, and
nothing else changes. -/
theorem substitute_last {text : String} (named : IsName name)
    (unmarked : ∀ c ∈ front, isMark c = false)
    (ending : text.toList = front ++ '@' :: name.toList) (bound : Value)
    (apart : ¬ ':' :: name.toList <:+: (parameterText bound).toList) :
    substitute text [(name, bound)] = String.ofList (front ++ (parameterText bound).toList) := by
  have absent {mark : Char} (marked : isMark mark = true) : mark ∉ front := by
    intro member
    rw [unmarked mark member] at marked
    cases marked
  -- the name with the other mark does not occur in what has been written
  have settled : ¬ ':' :: name.toList <:+: front ++ (parameterText bound).toList :=
    fun found => apart (infix_of_append (absent rfl) found)
  rw [substitute, ordered_single named, ending]
  simp only [List.foldl_cons, List.foldl_nil, substituteOne]
  rw [replaceAll_end (absent rfl), replaceAll_absent settled]

/-- What is written in front of the operand of a comparison. -/
def beforeOperand (field : String) (op : Comparison) : List Char :=
  field.toList ++ ' ' :: op.sign.toList ++ [' ']

theorem isMark_of_mem_beforeOperand {field : String} (isField : IsName field) (op : Comparison) :
    ∀ c ∈ beforeOperand field op, isMark c = false := by
  intro c member
  simp only [beforeOperand, List.mem_append, List.mem_cons, List.not_mem_nil, or_false] at member
  rcases member with (member | rfl | member) | rfl
  · exact isMark_of_isWordChar (isField.members c member)
  · rfl
  · exact isMark_of_sign op member
  · rfl

/-- A string that is bound to the only parameter of a comparison is written in its place, and
nothing else changes. -/
theorem substitute_comparison {field : String} (isField : IsName field) (named : IsName name)
    (op : Comparison) (apart : ¬ ':' :: name.toList <:+: value.toList) :
    substitute (field ++ " " ++ op.sign ++ " @" ++ name) [(name, .string value)] =
      String.ofList (writtenComparison field op value) := by
  have text : (field ++ " " ++ op.sign ++ " @" ++ name).toList =
      beforeOperand field op ++ '@' :: name.toList := by
    simp [beforeOperand]
  have operand : (parameterText (.string value)).toList =
      '"' :: (escaped value.toList ++ ['"']) := by
    rw [parameterText, toList_quoted]
  have inOperand : ¬ ':' :: name.toList <:+: (parameterText (.string value)).toList := by
    intro inside
    rw [operand, List.infix_cons_iff, List.cons_prefix_cons] at inside
    have plain : ∀ c ∈ ':' :: name.toList, c ≠ '"' ∧ c ≠ '\\' := by
      refine List.forall_mem_cons.mpr ⟨by decide, fun c member => ?_⟩
      have wordChar := named.members c member
      constructor <;> rintro rfl <;> revert wordChar <;> decide
    exact apart (infix_of_escaped (List.cons_ne_nil ':' _) plain
      (inside.resolve_left fun here => absurd here.1 (by decide)))
  rw [substitute_last named (isMark_of_mem_beforeOperand isField op) text _ inOperand, operand]
  simp [writtenComparison, beforeOperand]

end Parameters

end DocQuery

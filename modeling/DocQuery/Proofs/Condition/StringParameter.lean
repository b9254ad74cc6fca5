import DocQuery.Proofs.Condition.Blank
import DocQuery.Proofs.Condition.Cut
import DocQuery.Proofs.Condition.Operands
import DocQuery.Proofs.Condition.Shapes

/-! # String parameters

A comparison of a field with a string parameter, from its text to its filter.

* `leafFilter_comparison` — the filter of a comparison with a string that is written out.
* `string_parameter_iff` — when the filter is the comparison with the string that was bound.
-/

namespace DocQuery.Condition

open DocQuery.Text

variable {field s : String} {op : Comparison}

/-! ## The operand -/

theorem operand_string (idAllowed : Bool) (s : List Char) :
    operand idAllowed ('"' :: (escaped s ++ ['"'])) = .ok (quotedValue (reread s) idAllowed) :=
  operand_quoted rfl _ idAllowed

theorem isNothing_string {s : List Char} (nonempty : s ≠ []) :
    isNothing ('"' :: (escaped s ++ ['"'])) = false :=
  isNothing_quoted (escaped_eq_nil_iff.not.mpr nonempty)

/-- The filter of a comparison with a string: the string must be on one line, and the value is
that of the string as it is read again. -/
theorem leafFilter_comparison (named : IsName field) (op : Comparison) (nonempty : s.toList ≠ []) :
    leafFilter .rows (writtenComparison field op s) =
      if '\n' ∈ s.toList then .error .unrecognized
      else .ok (.compare op field (quotedValue (reread s.toList) (op == .eq))) := by
  obtain ⟨noRange, noList, noPresence, noPattern, compared⟩ :=
    shapes_comparison (isPath_name named) op (s := writtenComparison field op s) rfl
  have something : (writtenComparison field op s).isEmpty = false := by
    simp [writtenComparison]
  have skipped : skipBlanks ('"' :: (escaped s.toList ++ ['"'])) =
      '"' :: (escaped s.toList ++ ['"']) := skipBlanks_eq_self rfl
  have sameLine : (('"' :: (escaped s.toList ++ ['"'])).contains '\n') =
      decide ('\n' ∈ s.toList) := by
    simp [mem_escaped_iff]
  simp only [leafFilter, something, noRange, noList, noPresence, noPattern, compared, skipped,
    line?, sameLine]
  by_cases broken : '\n' ∈ s.toList
  · simp [broken]
  · have isMark : isQuote '"' = true := rfl
    simp [broken, comparisonFilter, trim_quoted isMark, isNothing_string nonempty,
      operand_string, Scope.resolve, Except.map]

theorem trim_comparison (named : IsName field) (op : Comparison) (s : String) :
    trim (writtenComparison field op s) = writtenComparison field op s := by
  obtain ⟨c, rest, same⟩ := List.exists_cons_of_ne_nil named.nonempty
  have first := isBlank_of_isWordChar (named.members c (same ▸ List.mem_cons_self))
  apply trim_eq_self
  · simp [writtenComparison, same, first]
  · have last : writtenComparison field op s =
        (field.toList ++ ' ' :: (op.sign.toList ++ ' ' :: '"' :: escaped s.toList)) ++ ['"'] := by
      simp [writtenComparison]
    rw [last, List.getLast?_concat]
    rfl

theorem compileText_compare_iff {value : Value} {t : List Char} (trimmed : trim t = t)
    (something : t ≠ []) :
    compileText .rows t = .ok (.compare op field value) ↔
      cutConditions t = .ok ⟨t, []⟩ ∧ leafFilter .rows t = .ok (.compare op field value) := by
  constructor
  · intro compiled
    obtain ⟨⟨first, others⟩, filters, cut, mapped, single | joined | joined⟩ :=
      compileText_eq_ok compiled (by rwa [trimmed])
    · rw [trimmed] at cut
      subst single
      obtain ⟨filter, rest, same, here, left⟩ := mapM_pieceFilter_cons mapped
      cases same
      -- there is one filter, so there is one piece
      have alone : others = [] := by
        cases others with
        | nil => rfl
        | cons other more =>
          obtain ⟨_, _, impossible, -⟩ := mapM_pieceFilter_cons left
          cases impossible
      subst alone
      have whole := cutFrom_whole cut
      subst whole
      rw [pieceFilter_eq_ok_iff, trimmed] at here
      exact ⟨cut, here⟩
    · cases joined
    · cases joined
  · rintro ⟨cut, leaf⟩
    have piece : pieceFilter .rows t = .ok (.compare op field value) := by
      rw [pieceFilter_eq_ok_iff, trimmed, leaf]
    simp [compileText, trimmed, something, cut, reporting, Pieces.has, Pieces.toList, piece, bind,
      Except.bind, pure, Except.pure]

/-! ## Parameters -/

/-- What a string denotes as an operand: an identifier where equality may hold with one, else an
instant if it is an internet timestamp, else itself. -/
def denoted (op : Comparison) (s : String) : Value :=
  match if op = .eq then ObjectId.parse? s else none with
  | some id => .objectId id
  | none =>
    match Time.Instant.parseInternet s with
    | .ok t => .instant t
    | .error _ => .string s

theorem quotedValue_toList (op : Comparison) (s : String) :
    quotedValue s.toList (op == .eq) = denoted op s := by
  simp only [quotedValue, denoted, String.ofList_toList]
  cases op <;> rfl

/-- The only value that a bound string can be compared as is the one that is read again. -/
theorem compile_parameter_iff {name : String} {value : Value} (op : Comparison)
    (isField : IsName field) (named : IsName name) (nonempty : s ≠ "")
    (apart : ¬ ':' :: name.toList <:+: s.toList) :
    compile .rows [(name, .string s)] (field ++ " " ++ op.sign ++ " @" ++ name) =
        .ok (.compare op field value) ↔
      cutConditions (writtenComparison field op s) = .ok ⟨writtenComparison field op s, []⟩ ∧
        '\n' ∉ s.toList ∧ quotedValue (reread s.toList) (op == .eq) = value := by
  have characters : s.toList ≠ [] := by simpa using nonempty
  have trimmed := trim_comparison isField op s
  have something : writtenComparison field op s ≠ [] := by simp [writtenComparison]
  rw [compile, Parameters.substitute_comparison isField named op apart, String.toList_ofList,
    compileText_compare_iff trimmed something, leafFilter_comparison isField op characters]
  refine and_congr_right fun _ => ?_
  by_cases broken : '\n' ∈ s.toList <;> simp [broken]

theorem compile_denoted_iff {name : String} (op : Comparison) (isField : IsName field)
    (named : IsName name) (nonempty : s ≠ "") (apart : ¬ ':' :: name.toList <:+: s.toList) :
    compile .rows [(name, .string s)] (field ++ " " ++ op.sign ++ " @" ++ name) =
        .ok (.compare op field (denoted op s)) ↔
      cutConditions (writtenComparison field op s) = .ok ⟨writtenComparison field op s, []⟩ ∧
        '\n' ∉ s.toList ∧ ¬ ['\\', '\\'] <:+: s.toList := by
  rw [compile_parameter_iff op isField named nonempty apart, ← quotedValue_toList,
    quotedValue_reread_iff]

/-- A string that is bound to a parameter is compared with the field as it is exactly if the
written comparison is left in one piece and the string has neither the end of a line nor a doubled
backslash. For a field of letters, digits and underscores that is no connector, and a string in
which no backslash stands in front of a double quote, the first is so unless the string ends in a
backslash. -/
theorem string_parameter_iff {name : String} (op : Comparison) (isField : IsName field)
    (named : IsName name) (nonempty : s ≠ "") (apart : ¬ ':' :: name.toList <:+: s.toList) :
    (compile .rows [(name, .string s)] (field ++ " " ++ op.sign ++ " @" ++ name) =
        .ok (.compare op field (denoted op s)) ↔
      cutConditions (writtenComparison field op s) = .ok ⟨writtenComparison field op s, []⟩ ∧
        '\n' ∉ s.toList ∧ ¬ ['\\', '\\'] <:+: s.toList) ∧
    ((∀ c ∈ field.toList, continuesWord c = true) →
      (∀ word : JoiningWord, field.toList.map Char.toUpper ≠ word.letters) →
      ¬ ['\\', '"'] <:+: s.toList →
      (compile .rows [(name, .string s)] (field ++ " " ++ op.sign ++ " @" ++ name) =
          .ok (.compare op field (denoted op s)) ↔
        '\n' ∉ s.toList ∧ ¬ ['\\', '\\'] <:+: s.toList ∧ s.toList.getLast? ≠ some '\\')) := by
  refine ⟨compile_denoted_iff op isField named nonempty apart, ?_⟩
  intro continues other noQuote
  have uncut (single : ¬ ['\\', '\\'] <:+: s.toList) :
      cutConditions (writtenComparison field op s) = .ok ⟨writtenComparison field op s, []⟩ ↔
        s.toList.getLast? ≠ some '\\' :=
    (whole_comparison_iff op continues other).trans
      (whole_escaped_iff false s.toList single noQuote _)
  rw [compile_denoted_iff op isField named nonempty apart]
  constructor
  · rintro ⟨whole, sameLine, single⟩
    exact ⟨sameLine, single, (uncut single).mp whole⟩
  · rintro ⟨sameLine, single, last⟩
    exact ⟨(uncut single).mpr last, sameLine, single⟩

/-- A string with a quote and a connector is compared as it is. -/
theorem string_parameter_quote_and_connector :
    compile .rows [("p", .string "a\" AND b")] ("f" ++ " " ++ Comparison.eq.sign ++ " @" ++ "p") =
      .ok (.compare .eq "f" (denoted .eq "a\" AND b")) := by
  have isField : IsName "f" := by decide
  have named : IsName "p" := by decide
  have nonempty : "a\" AND b" ≠ "" := by decide
  obtain ⟨-, exactly⟩ := string_parameter_iff .eq isField named nonempty (by decide)
  have noConnector : ∀ word : JoiningWord, "f".toList.map Char.toUpper ≠ word.letters := by
    intro word
    cases word <;> decide
  have continues : ("f".toList.all continuesWord) = true := by decide
  have noBackslashQuote : ¬ ['\\', '"'] <:+: "a\" AND b".toList := by decide
  exact (exactly (List.all_eq_true.mp continues) noConnector noBackslashQuote).mpr
    ⟨by decide, by decide, by decide⟩

/-- Not every string can be bound: of two backslashes one is lost. -/
theorem string_parameter_can_change :
    ¬ ∀ (field name s : String) (op : Comparison), IsName field → IsName name →
      (∀ word : JoiningWord, field.toList.map Char.toUpper ≠ word.letters) → s ≠ "" →
      ¬ '@' :: name.toList <:+: s.toList → ¬ ':' :: name.toList <:+: s.toList →
      compile .rows [(name, .string s)] (field ++ " " ++ op.sign ++ " @" ++ name) =
        .ok (.compare op field (denoted op s)) := by
  intro always
  have isField : IsName "f" := by decide
  have named : IsName "p" := by decide
  have noConnector : ∀ word : JoiningWord, "f".toList.map Char.toUpper ≠ word.letters := by
    intro word
    cases word <;> decide
  have bound := always "f" "p" "\\\\" .eq isField named noConnector (by decide) (by decide)
    (by decide)
  rw [compile_denoted_iff .eq isField named (by decide) (by decide)] at bound
  exact bound.2.2 ⟨[], [], rfl⟩

end DocQuery.Condition

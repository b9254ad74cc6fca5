import DocQuery.Proofs.Condition.Passing
import DocQuery.Proofs.Condition.Substitution

/-! # Conditions that are not cut

When a condition is left in one piece at the connectors, and which comparisons with a string are.

* `Whole` — nothing is cut from a state on, and the quotes and brackets are balanced.
* `cutFrom_whole` — a single piece is the whole text.
* `whole_escaped_iff` — when a string ends where its quotes are closed.
* `whole_comparison_iff` — whether a comparison is cut depends on its string alone.
-/

namespace DocQuery.Condition

open DocQuery.Text

variable {quoting : Quoting} {depth : Nat} {between : Bool} {before : Option Char} {c : Char}
  {s rest first : List Char}

/-- The text is left in one piece. -/
def Whole (quoting : Quoting) (depth : Nat) (between : Bool) (before : Option Char)
    (s : List Char) : Prop :=
  cutFrom quoting depth between before s = .ok ⟨s, []⟩

theorem extend_eq_ok {result : Except ConditionFault Pieces} {front : List Char}
    (single : result.map (Pieces.extend front) = .ok ⟨first, []⟩) :
    ∃ back, result = .ok ⟨back, []⟩ ∧ first = front ++ back := by
  cases result with
  | error e => cases single
  | ok pieces =>
    obtain ⟨back, others⟩ := pieces
    cases single
    exact ⟨back, rfl, rfl⟩

theorem cut_ne_ok {result : Except ConditionFault Pieces} {connector : Connector} :
    result.map (Pieces.cut connector) ≠ .ok ⟨first, []⟩ := by
  cases result <;> simp [Except.map, Pieces.cut]

/-- A single piece is the whole text. -/
theorem cutFrom_whole (single : cutFrom quoting depth between before s = .ok ⟨first, []⟩) :
    first = s := by
  fun_induction cutFrom quoting depth between before s generalizing first with
  -- errors, the end of the text, single characters, the words that do not cut, and the cuts
  | case1 | case2 | case6 => cases single
  | case3 =>
    cases single
    rfl
  | case4 | case5 | case7 | case12 =>
    rename_i ih
    obtain ⟨back, inner, rfl⟩ := extend_eq_ok single
    rw [ih inner]
    rfl
  | case8 | case9 =>
    rename_i ih
    obtain ⟨back, inner, rfl⟩ := extend_eq_ok single
    rw [ih inner, List.cons_append, List.take_append_drop]
  | _ => exact absurd single cut_ne_ok

/-! ## Passing over characters -/

theorem map_extend_eq_ok_iff {result : Except ConditionFault Pieces} (front : List Char) :
    result.map (Pieces.extend front) = .ok ⟨front ++ rest, []⟩ ↔ result = .ok ⟨rest, []⟩ := by
  constructor
  · intro single
    obtain ⟨back, inner, same⟩ := extend_eq_ok single
    rw [inner, List.append_cancel_left same]
  · rintro rfl
    rfl

theorem whole_nil (between : Bool) (before : Option Char) : Whole .outside 0 between before [] := by
  simp [Whole, cutFrom]

theorem not_whole_inside {q : Char} : ¬ Whole (.inside q) depth between before [] := by
  simp [Whole, cutFrom]

/-- In quotes every character is passed over, and so is the mark that opens them. -/
theorem whole_quoted_iff (quoted : (quoting != .outside || isQuote c) = true) :
    Whole quoting depth between before (c :: rest) ↔
      Whole (quoting.next c) depth between (some c) rest := by
  unfold Whole
  rw [cutFrom_quoted quoted]
  exact map_extend_eq_ok_iff [c]

/-- A text that is passed over does not decide whether the text is cut. -/
theorem whole_passes_iff {P : Prop} (passes : Passes 0 between between s rest)
    (later : ∀ before, Whole .outside 0 between before rest ↔ P) :
    Whole .outside 0 between before (s ++ rest) ↔ P := by
  obtain ⟨after, passed⟩ := passes before
  rw [Whole, passed, map_extend_eq_ok_iff]
  exact later after

theorem Passes.whole {between between' : Bool} (passes : Passes 0 between between' s [])
    (before : Option Char) : Whole .outside 0 between before s := by
  obtain ⟨after, passed⟩ := passes before
  rw [List.append_nil, cutFrom] at passed
  rw [Whole, passed]
  simp [Except.map, Pieces.extend]

/-- A text that is passed over is left in one piece. -/
theorem whole_of_passes (passes : ∀ between, Passes 0 between between s []) (between : Bool)
    (before : Option Char) : Whole .outside 0 between before s :=
  (passes between).whole before

/-! ## Strings in quotes -/

/-- A string in which no backslash stands in front of a backslash or a double quote ends where its
quotes are closed, unless its last character is a backslash. -/
theorem whole_escaped_iff (between : Bool) : (s : List Char) → ¬ ['\\', '\\'] <:+: s →
    ¬ ['\\', '"'] <:+: s → (before : Option Char) →
      (Whole (.inside '"') 0 between before (escaped s ++ ['"']) ↔ s.getLast? ≠ some '\\')
  | [], _, _, before => by
    have closed : Whole (.inside '"') 0 between before ['"'] :=
      (whole_quoted_iff rfl).mpr (whole_nil between _)
    simpa using closed
  | c :: s, single, apart, before => by
    have singleTail := mt List.infix_cons single
    have apartTail := mt List.infix_cons apart
    have later := whole_escaped_iff between s singleTail apartTail
    by_cases quote : c = '"'
    · subst quote
      rw [escaped_quote, List.cons_append, List.cons_append, whole_quoted_iff rfl,
        whole_quoted_iff rfl]
      refine (later _).trans ?_
      cases s <;> simp
    rw [escaped_cons quote, List.cons_append, whole_quoted_iff rfl]
    by_cases backslash : c = '\\'
    · -- the backslash is read together with what follows it
      subst backslash
      cases s with
      | nil =>
        rw [escaped_nil, List.nil_append, whole_quoted_iff rfl]
        have unclosed : ¬ Whole (.inside '"') 0 between (some '"') [] := not_whole_inside
        exact iff_of_false unclosed (by simp)
      | cons d rest =>
        have notBackslash : d ≠ '\\' := by
          rintro rfl
          exact single ⟨[], rest, rfl⟩
        have notQuote : d ≠ '"' := by
          rintro rfl
          exact apart ⟨[], rest, rfl⟩
        have later := whole_escaped_iff between rest (mt List.infix_cons singleTail)
          (mt List.infix_cons apartTail)
        rw [escaped_cons notQuote, List.cons_append, whole_quoted_iff rfl]
        refine (later _).trans ?_
        cases rest <;> simp [notBackslash]
    · have stays : Quoting.next (.inside '"') c = .inside '"' := by
        simp [Quoting.next, quote, backslash]
      rw [stays, later]
      cases s <;> simp [backslash]

/-! ## Comparisons -/

theorem passes_sign (op : Comparison) (rest : List Char) :
    Passes 0 between between op.sign.toList rest := by
  cases op with
  | eq | gt | lt => exact passes_separator (by decide) rest
  | ne | gte | lte =>
    exact (passes_separator (by decide) _).cons (passes_separator (by decide) rest)

/-- Nothing in front of its operand cuts a comparison. -/
theorem whole_comparison_iff {field s : String} (op : Comparison)
    (continues : ∀ c ∈ field.toList, continuesWord c = true)
    (other : ∀ word : JoiningWord, field.toList.map Char.toUpper ≠ word.letters) :
    Whole .outside 0 false none (writtenComparison field op s) ↔
      Whole (.inside '"') 0 false (some '"') (escaped s.toList ++ ['"']) := by
  have operand : ∀ before, Whole .outside 0 false before ('"' :: (escaped s.toList ++ ['"'])) ↔
      Whole (.inside '"') 0 false (some '"') (escaped s.toList ++ ['"']) :=
    fun _ => whole_quoted_iff rfl
  have space (rest : List Char) : Passes 0 false false [' '] rest :=
    passes_separator (by decide) rest
  exact whole_passes_iff (passes_word continues (fun _ => other) rfl) fun _ =>
    whole_passes_iff (space _) fun _ => whole_passes_iff (passes_sign op _) fun _ =>
      whole_passes_iff (space _) operand

end DocQuery.Condition

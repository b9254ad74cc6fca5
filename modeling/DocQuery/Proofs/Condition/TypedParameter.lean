import DocQuery.Proofs.Condition.ParameterItems
import DocQuery.Proofs.Condition.PathComparison
import DocQuery.Proofs.Condition.WrittenConditions
import DocQuery.Proofs.Time.SortableText

/-! # Typed parameters

A comparison with a parameter that is no string: nothing, a truth value, an integer, an identifier
or an instant. Each is written in its own way, and is read again by the first rule for operands that
takes its text.

* `isOperandText_parameterText` — what is read of a value that is written for a parameter.
* `typed_parameter_iff` — the comparison that becomes of the text and the value.
* `typed_parameter_can_change` — an instant of which a part is not written.
-/

namespace DocQuery

open DocQuery.Text Condition

/-- The values that are written for a parameter neither as strings nor as lists or numbers with a
point; an instant has a year of four digits and is in no leap second. -/
def Value.IsTyped : Value → Prop
  | .null | .bool _ | .int64 _ | .objectId _ => True
  | .instant t => 0 ≤ t.date.year ∧ t.date.year ≤ 9999 ∧ t.isLeap = false
  | _ => False

/-- The value as it is read again. -/
def Value.inTicks : Value → Value
  | .instant t => .instant t.inTicks
  | v => v

/-- Typed values other than instants can stand in a list as well. -/
theorem Value.IsTyped.instant_or {v : Value} (typed : v.IsTyped) :
    (∃ t, v = .instant t ∧ 0 ≤ t.date.year ∧ t.date.year ≤ 9999 ∧ t.isLeap = false) ∨
      IsListValue v ∧ (∀ s, v ≠ .string s) ∧ v.inTicks = v := by
  cases v with
  | instant t => exact .inl ⟨t, rfl, typed⟩
  | null | bool b | int64 n | objectId id => exact .inr ⟨trivial, by simp, rfl⟩
  | _ => cases typed

theorem Value.inTicks_eq_self_iff {v : Value} :
    v.inTicks = v ↔ ∀ t, v = .instant t → t.nano % 100 = 0 := by
  cases v with
  | instant t => simp [inTicks, Time.Instant.inTicks_eq_self_iff]
  | _ => simp [inTicks]

namespace Condition

variable {field name : String} {op : Comparison} {value : Value} {scope : Scope} {filter : Filter}
  {f w : List Char}

/-! ## Operands -/

/-- A comparison of a path with an operand compiles if no connector is read in the path, and then
to that comparison. -/
theorem compileText_operand_iff (path : path? f = some (f, []))
    (isOperand : IsOperandText op w value) :
    compileText scope (f ++ comparisonTail op w) = .ok filter ↔
      cutConditions f = .ok ⟨f, []⟩ ∧
        filter = .compare op (scope.resolve (String.ofList f)) value := by
  have passes (between : Bool) : Passes 0 between between (comparisonTail op w) [] :=
    .cons (passes_space _) <| .append (passes_sign op _) <|
      .cons (passes_space _) (isOperand.passes between)
  have ends : EndsSolid (comparisonTail op w) := .cons <| .append <| .cons isOperand.ends
  refine (compileText_path_iff path (whole_of_passes passes) ends).trans (and_congr_right fun _ => ?_)
  change leafFilter scope (f ++ comparisonTail op w) = _ ↔ _
  rw [leafFilter_operand (isPath_of_path? path).1 isOperand, Except.ok.injEq, eq_comm]

/-! ## Instants -/

/-- Behind a colon in front of digits nothing stands that begins with no digit. -/
theorem infix_of_digits {letters digits rest : List Char} (nonempty : letters ≠ [])
    (noDigit : ∀ c ∈ letters.head?, c.isDigit = false) (some_ : 0 < digits.length)
    (decimal : ∀ c ∈ digits, c.isDigit = true)
    (found : ':' :: letters <:+: ':' :: (digits ++ rest)) : ':' :: letters <:+: rest := by
  obtain ⟨d, digits, rfl⟩ := List.exists_cons_of_length_pos some_
  obtain ⟨c, letters, rfl⟩ := List.exists_cons_of_ne_nil nonempty
  have apart : ¬ ':' :: c :: letters <+: ':' :: (d :: digits ++ rest) := by
    intro here
    have same : c = d := (List.cons_prefix_cons.mp (List.cons_prefix_cons.mp here).2).1
    have digit := decimal d List.mem_cons_self
    rw [← same, noDigit c rfl] at digit
    cases digit
  refine Parameters.infix_of_append ?_ ((List.infix_cons_iff.mp found).resolve_left apart)
  exact fun member => absurd (decimal ':' member) (by decide)

section

variable {t : Time.Instant} (early : 0 ≤ t.date.year) (late : t.date.year ≤ 9999)

include early late

theorem inside_sortableText : ∀ c ∈ t.sortableText.toList, c ≠ '"' ∧ c ≠ '\\' := by
  intro c member
  rcases Time.Instant.mem_sortableText early late member with digit | mark
  · constructor <;> rintro rfl <;> cases digit
  · constructor <;> rintro rfl <;> revert mark <;> decide

theorem parameterText_instant : (Parameters.parameterText (.instant t)).toList =
    '"' :: (t.sortableText.toList ++ ['"']) := by
  rw [Parameters.parameterText, toList_quoted,
    escaped_absent fun member => (inside_sortableText early late _ member).1 rfl]

/-- A timestamp holds a hyphen, so it is not taken for an identifier. -/
theorem quotedValue_sortableText (noLeap : t.isLeap = false) (idAllowed : Bool) :
    quotedValue t.sortableText.toList idAllowed = .instant t.inTicks := by
  have hyphen : '-' ∈ t.sortableText.toList := by
    simp [t.toList_sortableText early late]
  have noId : ObjectId.parse? t.sortableText = none := by
    rw [ObjectId.parse?, mapM_hexNibble?_eq_none hyphen rfl]
    rfl
  have read := Time.Instant.parseInternet_sortableText early late noLeap
  cases idAllowed <;> simp [quotedValue, noId, read]

theorem isOperandText_instant (noLeap : t.isLeap = false) :
    IsOperandText op (Parameters.parameterText (.instant t)).toList (.instant t.inTicks) := by
  have inside := inside_sortableText early late
  have isMark : isQuote '"' = true := rfl
  rw [parameterText_instant early late]
  refine ⟨fun _ => passes_quoted isMark inside [], rfl, .cons (.append rfl), ?_, ?_, ?_⟩
  · have oneLine : '\n' ∉ t.sortableText.toList := by
      intro member
      rcases Time.Instant.mem_sortableText early late member with digit | mark
      · cases digit
      · revert mark
        decide
    simpa using oneLine
  · refine isNothing_quoted ?_
    simp [t.toList_sortableText early late]
  · rw [operand_quoted isMark, unescape_absent fun member => (inside _ member).2 rfl,
      quotedValue_sortableText early late noLeap]

/-- A colon in a timestamp has a digit behind it, so a name that begins with none does not stand
there. -/
theorem colon_notInfix_instant {letters : List Char} (nonempty : letters ≠ [])
    (noDigit : ∀ c ∈ letters.head?, c.isDigit = false) :
    ¬ ':' :: letters <:+: (Parameters.parameterText (.instant t)).toList := by
  have field (width n : Nat) : ∀ c ∈ Time.padded width n, c.isDigit = true :=
    fun c => Time.isDigit_of_mem_padded
  have noColon (width n : Nat) : ':' ∉ Time.padded width n :=
    fun member => absurd (field width n ':' member) (by decide)
  obtain ⟨-, -, -, minute, second, -⟩ := t.field_bounds
  rw [parameterText_instant early late, t.toList_sortableText early late]
  intro found
  have parts : '"' :: ((Time.padded 4 t.date.year.toNat ++ '-' :: (Time.padded 2 t.date.month ++
      '-' :: (Time.padded 2 t.date.day ++ 'T' :: (Time.padded 2 (t.second / 3600) ++
      ':' :: (Time.padded 2 (t.second / 60 % 60) ++ ':' :: (Time.padded 2 t.writtenSecond ++
      '.' :: (Time.padded 7 (t.nano / 100) ++ ['Z']))))))) ++ ['"']) =
      ('"' :: (Time.padded 4 t.date.year.toNat ++ '-' :: (Time.padded 2 t.date.month ++
        '-' :: (Time.padded 2 t.date.day ++ 'T' :: Time.padded 2 (t.second / 3600))))) ++
      ':' :: (Time.padded 2 (t.second / 60 % 60) ++ ':' :: (Time.padded 2 t.writtenSecond ++
      '.' :: (Time.padded 7 (t.nano / 100) ++ ['Z', '"']))) := by
    simp
  rw [parts] at found
  -- the date holds no colon, and behind both colons of the time digits stand
  have inMinute := Parameters.infix_of_append (by simp [noColon]) found
  have inSecond := infix_of_digits nonempty noDigit
    (Time.length_padded (Nat.zero_lt_succ 1) minute ▸ Nat.zero_lt_succ 1) (field _ _) inMinute
  have inFraction := infix_of_digits nonempty noDigit
    (Time.length_padded (Nat.zero_lt_succ 1) second ▸ Nat.zero_lt_succ 1) (field _ _) inSecond
  have colon := inFraction.subset List.mem_cons_self
  simp [noColon] at colon

end

/-! ## Parameters -/

/-- What is written for a typed value is read as that value, cut to what is written of it. -/
theorem isOperandText_parameterText (typed : value.IsTyped) :
    IsOperandText op (Parameters.parameterText value).toList value.inTicks := by
  rcases typed.instant_or with ⟨t, rfl, early, late, noLeap⟩ | ⟨simple, bare, kept⟩
  · exact isOperandText_instant early late noLeap
  · obtain ⟨v, text, same, notString⟩ := exists_writtenValue simple bare
    rw [← text, kept, ← same]
    refine WrittenValue.isOperandText ?_
    cases v with
    | string s noInstant => exact absurd rfl (notString s noInstant)
    | _ => trivial

theorem colon_notInfix (typed : value.IsTyped) {letters : List Char} (nonempty : letters ≠ [])
    (noDigit : ∀ c ∈ letters.head?, c.isDigit = false) :
    ¬ ':' :: letters <:+: (Parameters.parameterText value).toList := by
  rcases typed.instant_or with ⟨t, rfl, early, late, -⟩ | ⟨simple, -, -⟩
  · exact colon_notInfix_instant early late nonempty noDigit
  · exact fun found => (isItem_parameterText simple).2 (found.subset List.mem_cons_self)

theorem compile_typed_iff (op : Comparison) (isField : IsName field) (named : IsName name)
    (noDigit : ∀ c ∈ name.toList.head?, c.isDigit = false) (typed : value.IsTyped) :
    compile .rows [(name, value)] (field ++ " " ++ op.sign ++ " @" ++ name) = .ok filter ↔
      cutConditions field.toList = .ok ⟨field.toList, []⟩ ∧
        filter = .compare op field value.inTicks := by
  have text : (field ++ " " ++ op.sign ++ " @" ++ name).toList =
      Parameters.beforeOperand field op ++ '@' :: name.toList := by
    simp [Parameters.beforeOperand]
  have apart := colon_notInfix typed named.nonempty noDigit
  have tail (w : List Char) : Parameters.beforeOperand field op ++ w =
      field.toList ++ comparisonTail op w := by
    simp [Parameters.beforeOperand, comparisonTail]
  rw [compile, Parameters.substitute_last named
    (Parameters.isMark_of_mem_beforeOperand isField op) text _ apart, String.toList_ofList, tail,
    compileText_operand_iff (path?_name isField) (isOperandText_parameterText typed),
    String.ofList_toList]
  rfl

/-- A field is compared with the value of a typed parameter exactly if no connector is read in the
name of the field and, for an instant, it is one of whole tenths of a microsecond. What is below is
not written; if a connector is read, the condition does not compile. None is read in a name of
letters, digits and underscores that is no joining word. -/
theorem typed_parameter_iff (op : Comparison) (isField : IsName field) (named : IsName name)
    (noDigit : ∀ c ∈ name.toList.head?, c.isDigit = false) (typed : value.IsTyped) :
    (∀ filter,
      compile .rows [(name, value)] (field ++ " " ++ op.sign ++ " @" ++ name) = .ok filter ↔
        cutConditions field.toList = .ok ⟨field.toList, []⟩ ∧
          filter = .compare op field value.inTicks) ∧
    (IsPlainSegment field.toList →
      (compile .rows [(name, value)] (field ++ " " ++ op.sign ++ " @" ++ name) =
          .ok (.compare op field value) ↔
        ∀ t, value = .instant t → t.nano % 100 = 0)) := by
  refine ⟨fun _ => compile_typed_iff op isField named noDigit typed, fun plain => ?_⟩
  have whole : cutConditions field.toList = .ok ⟨field.toList, []⟩ := by
    refine whole_of_segments fun segment member => ?_
    rw [splitAt_absent isField.pointless, List.mem_singleton] at member
    exact member ▸ plain
  rw [compile_typed_iff op isField named noDigit typed, ← Value.inTicks_eq_self_iff]
  simp [whole, eq_comm]

/-- The instant a number of nanoseconds after the start of 1970. -/
def afterEpoch (nano : Fin 1000000000) : Time.Instant :=
  ⟨.epoch, 0, nano, by decide, .inl nano.isLt⟩

theorem isTyped_afterEpoch (nano : Fin 1000000000) :
    (Value.instant (afterEpoch nano)).IsTyped :=
  have early : (0 : Int) ≤ 1970 := by decide
  have late : (1970 : Int) ≤ 9999 := by decide
  ⟨early, late, decide_eq_false (Nat.not_le_of_lt nano.isLt)⟩

/-- A tenth of a microsecond is written and read again. -/
theorem typed_parameter_of_tick :
    compile .rows [("p", .instant (afterEpoch 100))]
        ("at" ++ " " ++ Comparison.gte.sign ++ " @" ++ "p") =
      .ok (.compare .gte "at" (.instant (afterEpoch 100))) := by
  have plain : IsPlainSegment "at".toList := ⟨by decide, fun word => by cases word <;> decide⟩
  have noDigit : ∀ c ∈ "p".toList.head?, c.isDigit = false := by simp
  refine ((typed_parameter_iff .gte (by decide) (by decide) noDigit
    (isTyped_afterEpoch 100)).2 plain).mpr fun t same => ?_
  cases same
  rfl

/-- Not every instant survives: a nanosecond is lost. -/
theorem typed_parameter_can_change :
    ¬ ∀ (field name : String) (op : Comparison) (value : Value), IsName field →
      (∀ word : JoiningWord, field.toList.map Char.toUpper ≠ word.letters) → IsName name →
      (∀ c ∈ name.toList.head?, c.isAlpha = true) → value.IsTyped →
      compile .rows [(name, value)] (field ++ " " ++ op.sign ++ " @" ++ name) =
        .ok (.compare op field value) := by
  intro always
  have other : ∀ word : JoiningWord, "f".toList.map Char.toUpper ≠ word.letters := by
    intro word
    cases word <;> decide
  have alphabetic : ∀ c ∈ "p".toList.head?, c.isAlpha = true := by simp
  have noDigit : ∀ c ∈ "p".toList.head?, c.isDigit = false := by simp
  have compiled := always "f" "p" .eq (.instant (afterEpoch 1)) (by decide) other (by decide)
    alphabetic (isTyped_afterEpoch 1)
  have changed := ((compile_typed_iff .eq (by decide) (by decide) noDigit
    (isTyped_afterEpoch 1)).mp compiled).2
  cases changed

end Condition

end DocQuery

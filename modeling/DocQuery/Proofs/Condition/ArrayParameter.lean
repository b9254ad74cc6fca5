import DocQuery.Proofs.Condition.ParameterItems
import DocQuery.Proofs.Condition.PathComparison

/-! # Array parameters

A condition that a field is in the list of an array parameter, from its text to its filter. The
array is written in square brackets, its items with commas between them, and the items are found
again. What can go wrong is the name of the field: a connector can be read in it.

* `Parameters.substitute_membership` — the text with the array written in.
* `array_parameter_iff` — when the filter has the items of the array.
* `array_parameter_can_fail` — a field that is no connector, in which one is read.
-/

namespace DocQuery

open DocQuery.Text Condition

variable {field name : String} {items : List Value} {filter : Filter}

namespace Parameters

theorem parameterTexts_eq_map (items : List Value) :
    parameterTexts items = items.map parameterText := by
  induction items with
  | nil => rfl
  | cons item items ih => rw [parameterTexts, ih, List.map_cons]

theorem toList_join_comma (texts : List String) :
    (join "," texts).toList = WrittenCondition.listText (texts.map String.toList) := by
  rw [join, String.toList_intercalate]
  induction texts with
  | nil => rfl
  | cons text texts ih =>
    cases texts with
    | nil => simp [WrittenCondition.listText]
    | cons next texts =>
      rw [List.map_cons, List.map_cons, List.intercalate_cons_cons, ← List.map_cons, ih]
      simp [WrittenCondition.listText]

/-- The text of an item, character by character. -/
def itemText (item : Value) : List Char := (parameterText item).toList

theorem parameterText_array (items : List Value) : (parameterText (.array items)).toList =
    '[' :: (WrittenCondition.listText (items.map itemText) ++ [']']) := by
  have texts : items.map itemText = (parameterTexts items).map String.toList := by
    rw [parameterTexts_eq_map, List.map_map]
    rfl
  rw [parameterText, texts, ← toList_join_comma]
  simp

end Parameters

namespace Condition

open Parameters

/-- A condition that a field is, or is not, in the list of a parameter. -/
def membershipOf (field : String) (negated : Bool) (name : String) : String :=
  field ++ (if negated then " NOT IN @" else " IN @") ++ name

/-- The array is written in the place of its name, and nothing else changes. -/
theorem substitute_membership (path : path? field.toList = some (field.toList, []))
    (named : IsName name) (simple : ∀ item ∈ items, IsListValue item) (negated : Bool) :
    substitute (membershipOf field negated name) [(name, .array items)] =
      String.ofList (field.toList ++ membershipTail negated .square (items.map itemText)) := by
  have text : (membershipOf field negated name).toList =
      (field.toList ++ (' ' :: (notLetters negated ++ ['I', 'N', ' ']))) ++ '@' :: name.toList := by
    cases negated <;> simp [membershipOf, notLetters]
  have unmarked : ∀ c ∈ field.toList ++ (' ' :: (notLetters negated ++ ['I', 'N', ' '])),
      isMark c = false := by
    rw [List.forall_mem_append]
    refine ⟨fun c member => ?_, by cases negated <;> decide⟩
    rcases (isPath_of_path? path).2 c member with rfl | isWord
    · rfl
    · exact isMark_of_isWordChar isWord
  -- a colon in front of the name would be taken for the parameter as well
  have apart : ¬ ':' :: name.toList <:+: (parameterText (.array items)).toList := by
    intro found
    have colon : ':' ∈ (parameterText (.array items)).toList := found.subset List.mem_cons_self
    have noColon : ':' ∉ WrittenCondition.listText (items.map itemText) :=
      notMem_listText (by decide) fun item member => (isItem_parameterText (simple item member)).2
    simp [parameterText_array, noColon] at colon
  rw [substitute_last named unmarked text _ apart, parameterText_array]
  simp [membershipTail, Brackets.opening, Brackets.closing]

/-- The condition compiles if no connector is read in its field, and then to nothing else than
membership of the items. -/
theorem compile_array_iff (path : path? field.toList = some (field.toList, []))
    (named : IsName name) (simple : ∀ item ∈ items, IsListValue item) (negated : Bool) :
    compile .rows [(name, .array items)] (membershipOf field negated name) = .ok filter ↔
      cutConditions field.toList = .ok ⟨field.toList, []⟩ ∧
        filter = membershipFilter negated field items := by
  have areItems : ∀ item ∈ items, IsItem (itemText item) item :=
    fun item member => (isItem_parameterText (simple item member)).1
  have ends : EndsSolid (membershipTail negated .square (items.map itemText)) :=
    .cons <| .append <| .append <| .cons <| .cons <| .append rfl
  have leaf := leafFilter_membership .rows (isPath_of_path? path).1 negated .square areItems
  rw [String.ofList_toList, List.map_id'] at leaf
  rw [compile, substitute_membership path named simple, String.toList_ofList]
  have whole := whole_of_passes fun _ => passes_membershipTail negated .square areItems
  refine (compileText_path_iff path whole ends).trans (and_congr_right fun _ => ?_)
  change leafFilter .rows (field.toList ++ membershipTail negated .square _) = _ ↔ _
  rw [leaf, Except.ok.injEq, eq_comm]
  rfl

/-- A field is compared with the items of an array parameter, in their order and with their types,
exactly if no connector is read in the name of the field; if one is, the condition does not compile.
None is read in a path whose segments are made of letters, digits and underscores and are no joining
words. -/
theorem array_parameter_iff (path : path? field.toList = some (field.toList, []))
    (named : IsName name) (simple : ∀ item ∈ items, IsListValue item) (negated : Bool) :
    (∀ filter, compile .rows [(name, .array items)] (membershipOf field negated name) = .ok filter ↔
      cutConditions field.toList = .ok ⟨field.toList, []⟩ ∧
        filter = membershipFilter negated field items) ∧
    ((∀ segment ∈ splitAt '.' field.toList, IsPlainSegment segment) →
      compile .rows [(name, .array items)] (membershipOf field negated name) =
        .ok (membershipFilter negated field items)) := by
  refine ⟨fun _ => compile_array_iff path named simple negated, fun plain => ?_⟩
  exact (compile_array_iff path named simple negated).mpr ⟨whole_of_segments plain, rfl⟩

/-- Items of all kinds, among them strings that look like parts of a list or of a condition. -/
def hardItems : List Value :=
  [.null, .bool true, .int64 (-7), .objectId .nil, .string "", .string "a\", ['b' AND (c",
    .string "null", .string "2024-01-01"]

theorem simple_hardItems : ∀ item ∈ hardItems, IsListValue item := by
  have short {s : String} (short : s.utf8ByteSize < 19) (t : Time.Instant) :
      Time.Instant.parseInternet s ≠ .ok t := Time.Instant.parseInternet_short short t
  simp only [hardItems, List.forall_mem_cons, List.not_mem_nil, IsListValue, true_and]
  exact ⟨⟨by decide, by decide, by decide, short (by decide)⟩,
    ⟨by decide, by decide, by decide, short (by decide)⟩,
    ⟨by decide, by decide, by decide, short (by decide)⟩,
    ⟨by decide, by decide, by decide, short (by decide)⟩, nofun⟩

/-- Hard items are found in a list again. -/
theorem array_parameter_of_hardItems :
    compile .rows [("p", .array hardItems)] (membershipOf "a.b" true "p") =
      .ok (.notIn "a.b" hardItems) := by
  have path : path? "a.b".toList = some ("a.b".toList, []) := by decide
  have plain : ∀ segment ∈ splitAt '.' "a.b".toList, IsPlainSegment segment := by
    intro segment member
    have either : segment = ['a'] ∨ segment = ['b'] := by simpa [splitAt] using member
    rcases either with rfl | rfl <;> exact ⟨by decide, fun word => by cases word <;> decide⟩
  exact (array_parameter_iff path (by decide) simple_hardItems true).2 plain

/-- A field that begins with the letters of a connector and a mark is cut. -/
theorem array_parameter_can_fail :
    ¬ ∀ (field name : String) (items : List Value) (negated : Bool),
      path? field.toList = some (field.toList, []) →
      (∀ segment ∈ splitAt '.' field.toList, ∀ word : JoiningWord,
        segment.map Char.toUpper ≠ word.letters) →
      IsName name → (∀ item ∈ items, IsListValue item) →
      compile .rows [(name, .array items)] (membershipOf field negated name) =
        .ok (membershipFilter negated field items) := by
  intro always
  have path : path? "or\u0301".toList = some ("or\u0301".toList, []) := by decide +kernel
  have other : ∀ segment ∈ splitAt '.' "or\u0301".toList, ∀ word : JoiningWord,
      segment.map Char.toUpper ≠ word.letters := by
    intro segment member word
    rw [List.mem_singleton.mp member]
    cases word <;> decide
  have simple : ∀ item ∈ [Value.int64 1], IsListValue item := by simp [IsListValue]
  have compiled := always "or\u0301" "p" [.int64 1] false path other (by decide) simple
  have whole := ((compile_array_iff path (by decide) simple false).mp compiled).1
  have read : joiningWord? none ['o', 'r', '\u0301'] = some .or := by decide +kernel
  change Whole .outside 0 false none ['o', 'r', '\u0301'] at whole
  rw [whole_plain_iff rfl rfl rfl, read] at whole
  exact whole

end Condition

end DocQuery

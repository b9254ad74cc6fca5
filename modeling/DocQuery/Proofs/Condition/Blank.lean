import DocQuery.Condition.Compile
import DocQuery.Proofs.Text.Words

/-! # What conditions compile to

The filter of one condition has what was read of the condition, by its shape; that of a clause joins
the filters of its conditions. A condition selects everything without saying so only when there is
nothing written in it.

* `Filter.both_cases` — conjunctions of two filters.
* `Condition.IsLeaf`, `Condition.isLeaf_of_leafFilter` — the filters of single conditions.
* `Condition.compileText_eq_ok` — the filter of a clause.
* `IsSolid` — something other than blanks is written.
* `Parameters.substitute_solid_iff` — parameters neither fill a blank text nor clear another one.
* `Condition.compile_eq_empty_iff` — a condition compiles to the empty filter exactly if it is
  blank.
-/

namespace DocQuery.Filter

/-- What the conjunction of two filters can be. -/
theorem both_cases (this other : Filter) :
    (this = .empty ∧ this.both other = other) ∨ (other = .empty ∧ this.both other = this) ∨
      (∃ filters, this = .all filters ∧ this.both other = .all (filters ++ [other])) ∨
      this.both other = .all [this, other] := by
  unfold both
  split
  · exact .inl ⟨rfl, rfl⟩
  · exact .inr (.inl ⟨rfl, rfl⟩)
  · exact .inr (.inr (.inl ⟨_, rfl, rfl⟩))
  · exact .inr (.inr (.inr rfl))

end DocQuery.Filter

namespace DocQuery.Condition

open DocQuery.Text

/-- The filters that one condition can have, by its shape. -/
inductive IsLeaf (scope : Scope) (s : List Char) : Filter → Prop
  | range {field low high : List Char} {least greatest : Value}
      (read : between? s = some (field, low, high)) (lowRead : operand false low = .ok least)
      (highRead : operand false high = .ok greatest) :
      IsLeaf scope s (.range (scope.resolve (String.ofList field)) least greatest)
  | isIn {field items : List Char} (read : membership? s = some (field, false, items)) :
      IsLeaf scope s (.isIn (scope.resolve (String.ofList field)) ((listItems items).map itemValue))
  | notIn {field items : List Char} (read : membership? s = some (field, true, items)) :
      IsLeaf scope s (.notIn (scope.resolve (String.ofList field)) ((listItems items).map itemValue))
  | present {field : List Char} {expected : Bool} (read : presence? s = some (field, expected)) :
      IsLeaf scope s (.present (scope.resolve (String.ofList field)) expected)
  | pattern {field source : List Char} (read : pattern? s = some (field, source)) :
      IsLeaf scope s
        (.pattern (scope.resolve (String.ofList field)) (String.ofList source) none)
  | compare {field text : List Char} {op : Comparison} {value : Value}
      (noPattern : pattern? s = none) (read : comparison? s = some (field, op, text))
      (valueRead : value = .null ∨ operand (op == .eq) (trim text) = .ok value) :
      IsLeaf scope s (.compare op (scope.resolve (String.ofList field)) value)

variable {scope : Scope} {s : List Char} {filter : Filter}

theorem comparisonFilter_eq_ok {field : String} {op : Comparison}
    (compiled : comparisonFilter field op s = .ok filter) :
    ∃ value, filter = .compare op field value ∧
      (value = .null ∨ operand (op == .eq) (trim s) = .ok value) := by
  simp only [comparisonFilter] at compiled
  split at compiled
  · cases op <;> cases compiled <;> exact ⟨_, rfl, .inl rfl⟩
  · cases read : operand (op == .eq) (trim s) with
    | error fault => rw [read] at compiled; cases compiled
    | ok value =>
      rw [read] at compiled
      cases compiled
      exact ⟨value, rfl, .inr rfl⟩

/-- A condition that compiles has one of the shapes; the first that fits is read. -/
theorem isLeaf_of_leafFilter (compiled : leafFilter scope s = .ok filter) :
    IsLeaf scope s filter := by
  by_cases empty : s.isEmpty = true
  · simp [leafFilter, empty] at compiled
  unfold leafFilter at compiled
  rw [if_neg empty] at compiled
  revert compiled
  cases range : between? s with
  | some bounds =>
    obtain ⟨field, low, high⟩ := bounds
    simp only [bind, Except.bind]
    cases lowRead : operand false low with
    | error fault => exact nofun
    | ok least =>
      cases highRead : operand false high with
      | error fault => exact nofun
      | ok greatest =>
        rintro ⟨⟩
        exact .range range lowRead highRead
  | none =>
  cases list : membership? s with
  | some parts =>
    obtain ⟨field, negated, items⟩ := parts
    cases negated <;> rintro ⟨⟩
    · exact .isIn list
    · exact .notIn list
  | none =>
  cases presence : presence? s with
  | some parts =>
    rintro ⟨⟩
    exact .present presence
  | none =>
  cases like : pattern? s with
  | some parts =>
    rintro ⟨⟩
    exact .pattern like
  | none =>
  cases comparison : comparison? s with
  | some parts =>
    intro compiled
    obtain ⟨value, rfl, valueRead⟩ := comparisonFilter_eq_ok compiled
    exact .compare like comparison valueRead
  | none => exact nofun

end DocQuery.Condition

namespace DocQuery

open DocQuery.Text

/-- Some character is not a blank. -/
def IsSolid (s : List Char) : Prop := ∃ c ∈ s, isBlank c = false

variable {c : Char} {s t : List Char}

@[simp] theorem not_isSolid_nil : ¬ IsSolid [] := by
  simp [IsSolid]

@[simp] theorem isSolid_cons : IsSolid (c :: s) ↔ isBlank c = false ∨ IsSolid s := by
  simp [IsSolid]

@[simp] theorem isSolid_append : IsSolid (s ++ t) ↔ IsSolid s ∨ IsSolid t := by
  simp [IsSolid, or_and_right, exists_or]

@[simp] theorem isSolid_reverse : IsSolid s.reverse ↔ IsSolid s := by
  simp [IsSolid]

theorem isSolid_dropWhile : IsSolid (s.dropWhile isBlank) ↔ IsSolid s := by
  induction s with
  | nil => rfl
  | cons c rest ih =>
    cases blank : isBlank c <;> simp [blank, ih]

theorem dropWhile_eq_nil_iff : s.dropWhile isBlank = [] ↔ ¬ IsSolid s := by
  simp [IsSolid, List.dropWhile_eq_nil_iff]

theorem trim_eq_nil_iff : trim s = [] ↔ ¬ IsSolid s := by
  rw [trim, List.reverse_eq_nil_iff, dropWhile_eq_nil_iff, isSolid_reverse, skipBlanks,
    isSolid_dropWhile]

namespace Parameters

/-! ## Parameters -/

theorem natText_solid (n : Nat) : IsSolid (toString n).toList := by
  have some_ : Nat.toDigits 10 n ≠ [] := Nat.toDigits_ne_nil
  obtain ⟨d, rest, same⟩ := List.exists_cons_of_ne_nil some_
  have digit : d.isDigit = true :=
    Nat.isDigit_of_mem_toDigits (by decide) (by decide) (same ▸ List.mem_cons_self)
  have notBlank : isBlank d = false := by
    have range : 48 ≤ d.toNat ∧ d.toNat ≤ 57 := by
      simpa [Char.isDigit, UInt32.le_iff_toNat_le] using digit
    apply isBlank_of_isWordChar
    simp [isWordChar, Char.isAlphanum, digit]
    omega
  rw [Nat.toString_eq_repr, Nat.toList_repr, same, isSolid_cons]
  exact .inl notBlank

theorem intText_solid (n : Int) : IsSolid (toString n).toList := by
  cases n with
  | ofNat n => exact natText_solid n
  | negSucc n =>
    change IsSolid ("-" ++ toString (n + 1)).toList
    simp [show isBlank '-' = false from rfl]

theorem doubleText_solid (x : Float) : IsSolid (Literal.doubleText x).toList := by
  unfold Literal.doubleText
  by_cases pointed : (Number.floatText Number.plainStyle x).toList.contains '.' = true
  · rw [if_pos pointed]
    exact ⟨'.', by simpa using pointed, rfl⟩
  · rw [if_neg pointed]
    exact ⟨'.', by simp, rfl⟩

theorem quoted_solid (s : String) : IsSolid (quoted s).toList := by
  simp [quoted, show isBlank '"' = false from rfl]

/-- Every value is written visibly. -/
theorem parameterText_solid (value : Value) : IsSolid (parameterText value).toList := by
  cases value <;> rw [parameterText]
  case null => simp [show isBlank 'n' = false from rfl]
  case bool b =>
    cases b <;> simp [show isBlank 't' = false from rfl, show isBlank 'f' = false from rfl]
  case int32 n => exact intText_solid _
  case int64 n => exact intText_solid _
  case float x => exact doubleText_solid x
  case string s => exact quoted_solid s
  case instant t => exact quoted_solid _
  case objectId id => simp [Literal.objectIdText, show isBlank 'O' = false from rfl]
  case array items => simp [show isBlank '[' = false from rfl]
  case binary bytes => exact quoted_solid _
  case object fields => exact quoted_solid _

theorem replaceFrom_solid (needle : List Char) {written : List Char} (visible : IsSolid written)
    (solid : IsSolid s) : IsSolid (replaceFrom needle written 0 s) := by
  induction s with
  | nil => simp at solid
  | cons c rest ih =>
    rw [replaceFrom]
    split
    · simp [visible]
    · rw [isSolid_cons] at solid ⊢
      exact solid.imp_right ih

theorem replaceFrom_blank (mark : Char) (notBlank : isBlank mark = false) (name : List Char)
    (written : List Char) (blank : ¬ IsSolid s) : replaceFrom (mark :: name) written 0 s = s := by
  induction s with
  | nil => rfl
  | cons c rest ih =>
    simp only [isSolid_cons, not_or, Bool.not_eq_false] at blank
    -- a marked name cannot begin at a blank
    have different : mark ≠ c := by
      rintro rfl
      rw [blank.1] at notBlank
      cases notBlank
    simp [replaceFrom, different, ih blank.2]

theorem substituteOne_solid_iff (name : String) (value : Value) :
    IsSolid (substituteOne s name value) ↔ IsSolid s := by
  have visible := parameterText_solid value
  by_cases solid : IsSolid s
  · simp only [solid, iff_true]
    exact replaceFrom_solid _ visible (replaceFrom_solid _ visible solid)
  · have first := replaceFrom_blank '@' rfl name.toList (parameterText value).toList solid
    have second := replaceFrom_blank ':' rfl name.toList (parameterText value).toList solid
    simp only [substituteOne, replaceAll, first, second]

theorem substitute_solid_iff (text : String) (params : Parameters) :
    IsSolid (substitute text params).toList ↔ IsSolid text.toList := by
  rw [substitute, String.toList_ofList]
  generalize text.toList = s
  induction ordered params generalizing s with
  | nil => rfl
  | cons entry rest ih => rw [List.foldl_cons, ih, substituteOne_solid_iff]

end Parameters

namespace Condition

/-! ## Filters -/

/-- No shape of a condition stands for everything. -/
theorem leafFilter_ne_empty (scope : Scope) (s : List Char) : leafFilter scope s ≠ .ok .empty :=
  fun compiled => nomatch isLeaf_of_leafFilter compiled

theorem pieceFilter_eq_ok_iff {scope : Scope} {piece : List Char} {filter : Filter} :
    pieceFilter scope piece = .ok filter ↔ leafFilter scope (trim piece) = .ok filter := by
  simp only [pieceFilter]
  cases leafFilter scope (trim piece) <;> simp [reporting]

theorem mapM_pieceFilter_cons {scope : Scope} {piece : List Char} {pieces : List (List Char)}
    {filters : List Filter} (compiled : (piece :: pieces).mapM (pieceFilter scope) = .ok filters) :
    ∃ filter rest, filters = filter :: rest ∧ pieceFilter scope piece = .ok filter ∧
      pieces.mapM (pieceFilter scope) = .ok rest := by
  rw [List.mapM_cons] at compiled
  cases first : pieceFilter scope piece with
  | error e => simp [first, bind, Except.bind] at compiled
  | ok filter =>
    cases others : pieces.mapM (pieceFilter scope) with
    | error e => simp [first, others, bind, Except.bind] at compiled
    | ok rest =>
      rw [first, others] at compiled
      cases compiled
      exact ⟨filter, rest, rfl, rfl, rfl⟩

/-- The filter of a single piece stands for itself; others are joined. -/
theorem compileText_eq_ok {scope : Scope} {filter : Filter}
    (compiled : compileText scope s = .ok filter) (something : trim s ≠ []) :
    ∃ pieces filters, cutConditions (trim s) = .ok pieces ∧
      pieces.toList.mapM (pieceFilter scope) = .ok filters ∧
      (filters = [filter] ∨ filter = .any filters ∨ filter = .all filters) := by
  unfold compileText at compiled
  simp only [List.isEmpty_iff, something, if_false] at compiled
  cases cut : cutConditions (trim s) with
  | error e => simp [cut, reporting, bind, Except.bind] at compiled
  | ok pieces =>
    simp only [cut, reporting, bind, Except.bind] at compiled
    split at compiled
    · cases compiled
    cases mapped : pieces.toList.mapM (pieceFilter scope) with
    | error e => simp [mapped] at compiled
    | ok filters =>
      refine ⟨pieces, filters, rfl, mapped, ?_⟩
      simp only [mapped] at compiled
      split at compiled
      · cases compiled
        exact .inl rfl
      · cases either : pieces.has .or <;> simp only [either] at compiled <;> cases compiled
        · exact .inr (.inr rfl)
        · exact .inr (.inl rfl)

/-- A condition in one piece is one condition. -/
theorem compileText_whole (scope : Scope) (trimmed : trim s = s) (something : s ≠ [])
    (whole : cutConditions s = .ok ⟨s, []⟩) :
    compileText scope s = reporting s (leafFilter scope s) := by
  have piece : pieceFilter scope s = reporting s (leafFilter scope s) := by
    rw [pieceFilter, trimmed]
  have uncut : reporting s (cutConditions s) = .ok ⟨s, []⟩ := by rw [whole, reporting]
  simp only [compileText, trimmed, List.isEmpty_iff, something, if_false, uncut, bind, Except.bind]
  simp only [Pieces.has, Pieces.toList, List.any_nil, Bool.false_and, List.map_nil,
    List.mapM_cons, List.mapM_nil, piece, bind, Except.bind]
  cases reporting s (leafFilter scope s) <;> rfl

/-- A condition compiles to the empty filter exactly if it is blank, whatever the parameters. -/
theorem compile_eq_empty_iff (scope : Scope) (params : Parameters) (text : String) :
    compile scope params text = .ok .empty ↔ ¬ IsSolid text.toList := by
  rw [compile, ← Parameters.substitute_solid_iff text params, ← trim_eq_nil_iff]
  generalize (Parameters.substitute text params).toList = s
  constructor
  · intro compiled
    by_contra something
    -- a joined filter is never empty, and neither is that of a single piece
    obtain ⟨pieces, filters, -, mapped, single | joined | joined⟩ :=
      compileText_eq_ok compiled something
    · obtain ⟨filter, rest, same, first, -⟩ := mapM_pieceFilter_cons mapped
      cases single ▸ same
      exact leafFilter_ne_empty scope _ (pieceFilter_eq_ok_iff.mp first)
    · cases joined
    · cases joined
  · intro nothing
    rw [compileText, nothing]
    rfl

end Condition

end DocQuery

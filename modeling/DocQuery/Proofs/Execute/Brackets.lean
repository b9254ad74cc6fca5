import DocQuery.Proofs.Value.Order
import Mathlib.Data.List.Basic
import Mathlib.Data.List.Induction

/-! # Comparisons within a bracket

Integers of both widths are in one bracket, and otherwise the values of one kind. Within a bracket
the order of values and loose equality agree, but for arrays and objects: these can be equal or
different, while the order takes them all for equal.

* `SameBracket` — two values of one bracket.
* `SameBracket.looseEq_iff_compare` — equality by the order, arrays and objects apart.
* `comparisons_agree_iff` — the comparisons of a field with a value, against each other.
* `no_comparison_of_arrays` — two arrays of which none is less, equal or greater.
-/

namespace DocQuery

/-! ## Equal places -/

namespace ObjectId

theorem value_concat (digits : List (Fin 16)) (digit : Fin 16) :
    value (digits ++ [digit]) = 16 * value digits + digit.val := by
  simp [value]

/-- As many digits of the same value are the same digits. -/
theorem digits_eq_of_value {s t : List (Fin 16)} (length : s.length = t.length)
    (same : value s = value t) : s = t := by
  induction s using List.reverseRecOn generalizing t with
  | nil => exact (List.length_eq_zero_iff.mp length.symm).symm
  | append_singleton s digit ih =>
    obtain ⟨t, other, rfl⟩ := (List.eq_nil_or_concat' t).resolve_left (by
      rintro rfl
      simp at length)
    rw [value_concat, value_concat] at same
    -- the last digit is the remainder of the value
    have last : digit = other := Fin.ext (by omega)
    have front : s = t := ih (by simpa using length) (by omega)
    rw [front, last]

instance : Std.LawfulEqCmp compare where
  compare_self := Std.ReflOrd.compare_self
  eq_of_compare {a b} equal := by
    have digits := digits_eq_of_value (a.length_digits.trans b.length_digits.symm)
      (Std.LawfulEqOrd.eq_of_compare equal)
    cases a
    cases b
    cases digits
    rfl

end ObjectId

namespace Time

instance : Std.LawfulEqCmp Date.compare where
  eq_of_compare {a b} equal := by
    have parts : a.year = b.year ∧ a.month = b.month ∧ a.day = b.day := by
      simpa only [Date.compare, Ordering.then_eq_eq, Std.LawfulEqOrd.compare_eq_iff_eq] using equal
    obtain ⟨year, month, day⟩ := parts
    cases a
    cases b
    cases year
    cases month
    cases day
    rfl

instance : Std.LawfulEqCmp Instant.compare where
  eq_of_compare {a b} equal := by
    have parts : a.date = b.date ∧ a.second = b.second ∧ a.nano = b.nano := by
      simpa only [Instant.compare, Ordering.then_eq_eq, Std.LawfulEqOrd.compare_eq_iff_eq,
        Std.LawfulEqCmp.compare_eq_iff_eq] using equal
    obtain ⟨date, second, nano⟩ := parts
    cases a
    cases b
    cases date
    cases second
    cases nano
    rfl

end Time

namespace Value

theorem compareBytes_eq_iff (s t : List UInt8) : compareBytes s t = .eq ↔ s = t := by
  rw [compareBytes_eq]
  exact Std.LawfulEqOrd.compare_eq_iff_eq

/-- Whether the value is made of others: an array or an object. -/
def isStructured (v : Value) : Bool := v.isArray || v.isObject

variable {a b : Value}

/-- Values of one kind, numbers, arrays and objects apart, are loosely equal exactly if they come at
the same place. -/
theorem same_iff_compare (kinds : a.kind = b.kind) (notNumber : a.isNumber = false)
    (single : a.isStructured = false) : a.same b = true ↔ a.compare b = .eq := by
  cases a <;> cases b <;> cases kinds <;> cases notNumber <;> cases single <;>
    simp only [same, beq_iff_eq]
  case null => exact iff_of_true trivial rfl
  case binary s t => exact (compareBytes_eq_iff s t).symm
  case instant s t =>
    exact (Std.LawfulEqCmp.compare_eq_iff_eq : Time.Instant.compare s t = .eq ↔ s = t).symm
  case objectId s t =>
    exact (Std.LawfulEqCmp.compare_eq_iff_eq : ObjectId.compare s t = .eq ↔ s = t).symm
  all_goals exact Std.LawfulEqOrd.compare_eq_iff_eq.symm

/-- Of values of one kind, arrays and objects are all at the same place. -/
theorem compare_of_isStructured (kinds : a.kind = b.kind) (structured : a.isStructured = true) :
    a.compare b = .eq := by
  cases a <;> cases b <;> cases kinds <;> cases structured <;> rfl

end Value

/-! ## Brackets -/

/-- Two values of one bracket: integers of either width, or values of one kind, neither null nor
doubles. -/
def SameBracket (a b : Value) : Prop :=
  (a.asInt?.isSome = true ∧ b.asInt?.isSome = true) ∨
    (a.kind = b.kind ∧ a.kind ≠ .null ∧ a.kind ≠ .float)

instance (a b : Value) : Decidable (SameBracket a b) := inferInstanceAs (Decidable (_ ∨ _))

namespace SameBracket

variable {a b : Value}

theorem comparable (bracket : SameBracket a b) : comparable a b = true := by
  rcases bracket with ⟨one, other⟩ | ⟨kinds, -⟩
  · -- integers of different widths are comparable as numbers
    cases a <;> cases one <;> cases b <;> cases other <;> rfl
  · simp [DocQuery.comparable, kinds]

theorem isNull_left (bracket : SameBracket a b) : a.isNull = false := by
  rcases bracket with ⟨one, -⟩ | ⟨-, notNull, -⟩
  · cases a <;> cases one <;> rfl
  · cases a <;> first | exact absurd rfl notNull | rfl

/-- Arrays and objects are in a bracket with their own kind only. -/
theorem kind_of_isStructured (bracket : SameBracket a b) (structured : a.isStructured = true) :
    a.kind = b.kind := by
  rcases bracket with ⟨one, -⟩ | ⟨kinds, -⟩
  · cases a <;> cases one <;> cases structured
  · exact kinds

/-- Within a bracket, arrays and objects apart, the values are loosely equal exactly if they come at
the same place. -/
theorem looseEq_iff_compare (bracket : SameBracket a b) (single : a.isStructured = false) :
    a.looseEq b = true ↔ a.compare b = .eq := by
  have notArrays : ¬ (a.isArray = true ∧ b.isArray = true) := by
    rintro ⟨array, -⟩
    simp [Value.isStructured, array] at single
  rw [Value.looseEq_of_not_isArray notArrays]
  split
  · exact beq_iff_eq
  · rename_i notNumbers
    rcases bracket with ⟨one, other⟩ | ⟨kinds, -, -⟩
    · cases a <;> cases one <;> cases b <;> cases other <;> exact absurd rfl notNumbers
    · have notNumber : a.isNumber = false := by
        cases a <;> cases b <;> cases kinds <;> first | rfl | exact absurd rfl notNumbers
      exact Value.same_iff_compare kinds notNumber single

end SameBracket

/-! ## Comparisons of a field -/

/-- Whether a document passes the comparison of the field at a path with a value. -/
def Document.Passes (doc : Document) (op : Comparison) (path : String) (v : Value) : Prop :=
  Filter.test doc (.compare op path v) = .ok true

section

variable {doc : Document} {path : String} {d v : Value} (found : doc.getPath? path = some d)
  (bracket : SameBracket d v)

include found bracket

theorem passes_eq_iff : doc.Passes .eq path v ↔ d.looseEq v = true := by
  have arrays : fieldEquals (some d) v = d.looseEq v := by
    cases d with
    | array items =>
      have array : v.isArray = true := by
        have kinds := bracket.kind_of_isStructured rfl
        cases v <;> cases kinds
        rfl
      simp [fieldEquals, array]
    | _ => rfl
  simp [Document.Passes, Filter.test, Comparison.holds, found, arrays]

theorem fieldCompares_eq (accept : Ordering → Bool) :
    fieldCompares (doc.getPath? path) v accept = accept (d.compare v) := by
  simp [fieldCompares, found, bracket.isNull_left, bracket.comparable]

theorem passes_lt_iff : doc.Passes .lt path v ↔ d.compare v = .lt := by
  simp [Document.Passes, Filter.test, Comparison.holds, fieldCompares_eq found bracket]

theorem passes_gt_iff : doc.Passes .gt path v ↔ d.compare v = .gt := by
  simp [Document.Passes, Filter.test, Comparison.holds, fieldCompares_eq found bracket]

theorem passes_gte_iff : doc.Passes .gte path v ↔ d.compare v ≠ .lt := by
  simp [Document.Passes, Filter.test, Comparison.holds, fieldCompares_eq found bracket]

theorem passes_lte_iff : doc.Passes .lte path v ↔ d.compare v ≠ .gt := by
  simp [Document.Passes, Filter.test, Comparison.holds, fieldCompares_eq found bracket]

omit bracket in
theorem test_range_iff {low high : Value} (lower : SameBracket d low) (upper : SameBracket d high) :
    Filter.test doc (.range path low high) = .ok true ↔
      ¬ doc.Passes .lt path low ∧ ¬ doc.Passes .gt path high := by
  rw [passes_lt_iff found lower, passes_gt_iff found upper]
  simp [Filter.test, fieldCompares_eq found lower, fieldCompares_eq found upper]

end

/-- Exactly one of the three comparisons that exclude each other holds. -/
theorem existsUnique_comparison_iff {holds : Comparison → Prop} :
    (∃! op, op ∈ [.lt, .eq, .gt] ∧ holds op) ↔
      (holds .lt ∧ ¬ holds .eq ∧ ¬ holds .gt) ∨ (¬ holds .lt ∧ holds .eq ∧ ¬ holds .gt) ∨
        (¬ holds .lt ∧ ¬ holds .eq ∧ holds .gt) := by
  constructor
  · rintro ⟨op, ⟨member, here⟩, unique⟩
    have only {other : Comparison} (listed : other ∈ [.lt, .eq, .gt]) (different : other ≠ op) :
        ¬ holds other := fun too => different (unique other ⟨listed, too⟩)
    cases op with
    | lt => exact .inl ⟨here, only (by decide) (by decide), only (by decide) (by decide)⟩
    | eq => exact .inr (.inl ⟨only (by decide) (by decide), here, only (by decide) (by decide)⟩)
    | gt => exact .inr (.inr ⟨only (by decide) (by decide), only (by decide) (by decide), here⟩)
    | ne | gte | lte => simp at member
  · rintro (⟨lt, notEq, notGt⟩ | ⟨notLt, eq, notGt⟩ | ⟨notLt, notEq, gt⟩)
    · refine ⟨.lt, ⟨by decide, lt⟩, ?_⟩
      rintro op ⟨member, here⟩
      cases op <;> simp_all
    · refine ⟨.eq, ⟨by decide, eq⟩, ?_⟩
      rintro op ⟨member, here⟩
      cases op <;> simp_all
    · refine ⟨.gt, ⟨by decide, gt⟩, ?_⟩
      rintro op ⟨member, here⟩
      cases op <;> simp_all

/-- The comparisons of a field with a value of its bracket fit together exactly if the two are no
arrays or objects, or equal each other: then exactly one of less, equal and greater holds, "greater
or equal" holds where one of the two does, and so does "less or equal". Otherwise none of the three
holds, and both of these do. A range holds exactly if its field is neither less than the lower bound
nor greater than the upper one, in every bracket. -/
theorem comparisons_agree_iff {doc : Document} {path : String} {d v : Value}
    (found : doc.getPath? path = some d) (bracket : SameBracket d v) :
    ((∃! op, op ∈ [.lt, .eq, .gt] ∧ doc.Passes op path v) ↔
        (d.isStructured = true → doc.Passes .eq path v)) ∧
      ((doc.Passes .gte path v ↔ doc.Passes .gt path v ∨ doc.Passes .eq path v) ↔
        (d.isStructured = true → doc.Passes .eq path v)) ∧
      ((doc.Passes .lte path v ↔ doc.Passes .lt path v ∨ doc.Passes .eq path v) ↔
        (d.isStructured = true → doc.Passes .eq path v)) ∧
      ∀ low high, SameBracket d low → SameBracket d high →
        (Filter.test doc (.range path low high) = .ok true ↔
          ¬ doc.Passes .lt path low ∧ ¬ doc.Passes .gt path high) := by
  rw [existsUnique_comparison_iff, passes_gte_iff found bracket, passes_lte_iff found bracket,
    passes_lt_iff found bracket, passes_gt_iff found bracket, passes_eq_iff found bracket]
  cases structured : d.isStructured with
  | true =>
    have order := Value.compare_of_isStructured (bracket.kind_of_isStructured structured) structured
    refine ⟨?_, ?_, ?_, fun low high => test_range_iff found⟩ <;> simp [order]
  | false =>
    -- here equality is decided by the order
    rw [bracket.looseEq_iff_compare structured]
    refine ⟨?_, ?_, ?_, fun low high => test_range_iff found⟩ <;> cases d.compare v <;> simp

/-- Integers of both widths, between bounds of which one is of the other width. -/
theorem comparisons_agree_of_integers :
    let doc : Document := ⟨[("a", .object [("b", .int32 3)])]⟩
    doc.getPath? "a.b" = some (.int32 3) ∧ SameBracket (.int32 3) (.int64 5) ∧
      (∃! op, op ∈ [.lt, .eq, .gt] ∧ doc.Passes op "a.b" (.int64 5)) ∧
      (Filter.test doc (.range "a.b" (.int64 3) (.int32 4)) = .ok true ↔
        ¬ doc.Passes .lt "a.b" (.int64 3) ∧ ¬ doc.Passes .gt "a.b" (.int32 4)) := by
  intro doc
  have found : doc.getPath? "a.b" = some (.int32 3) := by rfl
  have bracket : SameBracket (.int32 3) (.int64 5) := by decide
  obtain ⟨exactly, -, -, ranges⟩ := comparisons_agree_iff found bracket
  exact ⟨found, bracket, exactly.mpr nofun, ranges _ _ (by decide) (by decide)⟩

/-- Not of all values of one bracket one is less, equal or greater: of two arrays with different
items none is. -/
theorem no_comparison_of_arrays :
    ¬ ∀ (doc : Document) (path : String) (d v : Value), doc.getPath? path = some d →
      SameBracket d v → ∃! op, op ∈ [.lt, .eq, .gt] ∧ doc.Passes op path v := by
  intro agree
  have found : Document.getPath? ⟨[("a", .array [.int64 1])]⟩ "a" = some (.array [.int64 1]) := by
    rfl
  have bracket : SameBracket (.array [.int64 1]) (.array [.int64 2]) := by decide
  obtain ⟨op, ⟨member, passes⟩, -⟩ := agree _ _ _ _ found bracket
  cases op with
  | lt => exact absurd ((passes_lt_iff found bracket).mp passes) (by decide)
  | eq => exact absurd ((passes_eq_iff found bracket).mp passes) (by decide)
  | gt => exact absurd ((passes_gt_iff found bracket).mp passes) (by decide)
  | ne | gte | lte => simp at member

end DocQuery

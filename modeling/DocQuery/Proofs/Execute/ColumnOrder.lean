import DocQuery.Execute.Order
import DocQuery.Proofs.Execute.Groups
import DocQuery.Proofs.Execute.Repetitions
import DocQuery.Proofs.Value.Order

/-! # Documents in the order of a column

Sorting documents by one column sorts the values of that column. A document without the field comes
before one with null there, but both have null as the value of the column.

* `Value.leBy` — the order of values in both directions.
* `sortDocuments_eq` — the order of documents by one column.
* `map_sortDocuments` — the column of the documents in order.
-/

namespace DocQuery

variable {column : String}

/-! ## Order by the column -/

namespace Value

/-- The order in one of both directions. -/
def leBy (descending : Bool) (a b : Value) : Bool := if descending then b.le a else a.le b

theorem leBy_refl (descending : Bool) (a : Value) : leBy descending a a = true := by
  cases descending <;> exact le_refl a

theorem orders_leBy {values : List Value} (chain : IsChain values) (descending : Bool) :
    Orders (leBy descending) values := by
  have ascending : Orders le values := ⟨chain, fun a _ b _ => le_total a b⟩
  cases descending with
  | false => exact ascending
  | true => exact ascending.swap

/-- Both directions have the same places. -/
theorem level_leBy (descending : Bool) (a b : Value) : level (leBy descending) a b = level le a b := by
  cases descending with
  | false => rfl
  | true => exact Bool.and_comm _ _

theorem level_of_looseEq {a b : Value} (equal : a.looseEq b = true) : level le a b = true := by
  have order := compare_of_looseEq equal
  have swapped := compare_swap a b
  rw [order] at swapped
  simp [level, le, order, swapped]

end Value

theorem compareFound_swap (x y : Option Value) : compareFound y x = (compareFound x y).swap := by
  cases x <;> cases y
  case some.some a b => exact Value.compare_swap a b
  all_goals rfl

/-- Whether one field, which may be missing, is not behind another one. -/
def foundLe (descending : Bool) (x y : Option Value) : Bool :=
  if descending then compareFound y x != .gt else compareFound x y != .gt

@[simp] theorem foundLe_some (v w : Value) : foundLe false (some v) (some w) = v.le w := rfl

theorem sortDocuments_eq (column : String) (descending : Bool) (docs : List Document) :
    sortDocuments [⟨column, none, descending⟩] docs = docs.mergeSort fun a b =>
      foundLe descending (a.getPath? column) (b.getPath? column) := by
  have found (doc : Document) : SortKey.value? ⟨column, none, descending⟩ doc =
      doc.getPath? column := by
    simp [SortKey.value?]
  unfold sortDocuments
  congr
  funext a b
  cases descending <;> simp [SortKeys.compare, SortKey.compare, found, foundLe,
    compareFound_swap (a.getPath? column)]

section Column

variable {docs : List Document} {a b : Document}

/-- The place of a document for a column, missing fields first. -/
def columnLe (column : String) (a b : Document) : Bool :=
  foundLe false (a.getPath? column) (b.getPath? column)

theorem le_of_columnLe (first : columnLe column a b = true) :
    (a.groupValue column).le (b.groupValue column) = true := by
  rw [columnLe] at first
  rw [Document.groupValue, Document.groupValue]
  cases foundA : a.getPath? column with
  | none => exact Value.null_le _
  | some v =>
    cases foundB : b.getPath? column with
    | none => simp [foundA, foundB, foundLe, compareFound] at first
    | some w => simpa [foundA, foundB] using first

theorem columnLe_of_le (first : (a.groupValue column).le (b.groupValue column) = true)
    (notNull : b.groupValue column ≠ .null) : columnLe column a b = true := by
  rw [columnLe]
  rw [Document.groupValue, Document.groupValue] at first
  rw [Document.groupValue] at notNull
  cases foundB : b.getPath? column with
  | none => exact absurd (by rw [foundB]; rfl) notNull
  | some w =>
    cases foundA : a.getPath? column with
    | none => rfl
    | some v => simpa [foundA, foundB] using first

theorem orders_columnLe (chain : Value.IsChain (docs.map (·.groupValue column))) :
    Orders (columnLe column) docs where
  trans a inA b inB c inC first second := by
    have values := chain _ (List.mem_map_of_mem inA) _ (List.mem_map_of_mem inB) _
      (List.mem_map_of_mem inC) (le_of_columnLe first) (le_of_columnLe second)
    unfold columnLe Document.groupValue at *
    cases foundA : a.getPath? column with
    | none => cases c.getPath? column <;> rfl
    | some u =>
      cases foundB : b.getPath? column with
      | none => simp [foundA, foundB, foundLe, compareFound] at first
      | some v =>
        cases foundC : c.getPath? column with
        | none => simp [foundB, foundC, foundLe, compareFound] at second
        | some w => simpa [foundA, foundC] using values
  total a _ b _ := by
    unfold columnLe
    cases a.getPath? column <;> cases b.getPath? column
    case some.some v w => exact Value.le_total v w
    all_goals simp [foundLe, compareFound]

/-- Documents with one place for their values are in one place, unless the values are null, and hence
equal. -/
theorem columnLe_or_eq (chain : Value.IsChain (docs.map (·.groupValue column))) {x : Value}
    (member : x ∈ docs.map (·.groupValue column)) :
    (∀ a ∈ docs, ∀ b ∈ docs, level Value.le x (a.groupValue column) = true →
      level Value.le x (b.groupValue column) = true → columnLe column a b = true) ∨
    ∀ a ∈ docs, level Value.le x (a.groupValue column) = true → a.groupValue column = x := by
  by_cases isNull : x = .null
  · subst isNull
    refine .inr fun a _ placed => ?_
    rw [level, Bool.and_eq_true] at placed
    exact Value.eq_null_of_le placed.2
  · refine .inl fun a inA b inB one other => ?_
    rw [level, Bool.and_eq_true] at one other
    have values := chain _ (List.mem_map_of_mem inA) x member _ (List.mem_map_of_mem inB)
      one.2 other.1
    exact columnLe_of_le values fun null => isNull (Value.eq_null_of_le (null ▸ other.1))

/-- The column of the documents in its order is the column in order; whether a field is missing or
null plays no part. -/
theorem map_sortDocuments (chain : Value.IsChain (docs.map (·.groupValue column)))
    (descending : Bool) :
    (sortDocuments [⟨column, none, descending⟩] docs).map (·.groupValue column) =
      (docs.map (·.groupValue column)).mergeSort (Value.leBy descending) := by
  have fine := orders_columnLe chain
  have refl := Value.leBy_refl descending
  have orders := Value.orders_leBy chain descending
  rw [sortDocuments_eq]
  cases descending with
  | false =>
    exact map_mergeSort_of_finer refl fine orders (fun a _ b _ => le_of_columnLe)
      fun x member => columnLe_or_eq chain member
  | true =>
    refine map_mergeSort_of_finer refl fine.swap orders (fun a _ b _ => le_of_columnLe)
      fun x member => ?_
    simp only [Value.level_leBy]
    exact (columnLe_or_eq chain member).imp_left fun together a inA b inB one other =>
      together b inB a inA other one

end Column

end DocQuery

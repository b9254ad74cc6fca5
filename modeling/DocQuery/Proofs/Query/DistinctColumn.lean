import DocQuery.Proofs.Execute.ColumnOrder
import DocQuery.Proofs.Execute.GroupConditions
import DocQuery.Proofs.Execute.Stages
import DocQuery.Proofs.Query.ExistsFilter
import DocQuery.Proofs.Text.Names
import DocQuery.Query.Plan
import DocQuery.Table.Basic

/-! # One column without repetitions

The values of one column without repetitions are found in two ways: as the groups of the documents,
and from the documents themselves. On values that are written alike exactly if they are loosely
equal both give the same, also in the order of the column.

* `run_distinct` — the groups of one column, as documents of that column.
* `distinct`, `ordered`, `Settled` — values without repetitions and in order.
* `distinct_ordered`, `arranged_groups` — repetitions left out before and after ordering.
* `cells_ofDocuments` — the cells of the table of such documents.
-/

namespace DocQuery

/-! ## Groups of one column -/

section Heads

variable {α : Type} {written : α → String} {d : α} {parts : List (List α)}

/-- The first elements of parts after one more element. -/
theorem heads_joinPart (nonempty : ∀ part ∈ parts, part ≠ [])
    (together : ∀ part ∈ parts, ∀ d ∈ part, ∀ e ∈ part, SameKey written d e) :
    (joinPart written d parts).filterMap List.head? =
      if (parts.filterMap List.head?).any (written · == written d) then
        parts.filterMap List.head?
      else parts.filterMap List.head? ++ [d] := by
  induction parts with
  | nil => rfl
  | cons part rest ih =>
    rw [List.forall_mem_cons] at nonempty together
    obtain ⟨first, others, rfl⟩ := List.exists_cons_of_ne_nil nonempty.1
    -- all of a part have the text of its first element
    have test : (first :: others).any (written · == written d) = (written first == written d) := by
      rw [Bool.eq_iff_iff, List.any_eq_true]
      constructor
      · rintro ⟨e, inside, same⟩
        rw [beq_iff_eq] at same ⊢
        exact (together.1 first List.mem_cons_self e inside).trans same
      · exact fun same => ⟨first, List.mem_cons_self, same⟩
    rw [joinPart, test, List.filterMap_cons_some (by rfl : (first :: others).head? = some first),
      List.any_cons]
    cases here : written first == written d with
    | true => rfl
    | false =>
      rw [Bool.false_or, if_neg Bool.false_ne_true,
        List.filterMap_cons_some (by rfl : (first :: others).head? = some first),
        ih nonempty.2 together.2]
      split <;> rfl

/-- The first elements of the parts are those whose text is not that of an earlier one. -/
theorem heads_partsOf (written : α → String) (docs : List α) :
    (partsOf written docs).filterMap List.head? =
      firsts (fun d e => written d == written e) docs := by
  induction docs using List.reverseRecOn with
  | nil => rfl
  | append_singleton docs d ih =>
    have grouping := isGrouping_partsOf written docs
    rw [partsOf_concat, heads_joinPart grouping.nonempty grouping.together, ih, firsts_concat]

end Heads

variable {column : String}

/-- The document with one field. -/
def Document.single (column : String) (value : Value) : Document := ⟨[(column, value)]⟩

theorem Document.getPath?_single (name : IsName column) (value : Value) :
    (Document.single column value).getPath? column = some value := by
  rw [getPath?_eq_get? name.pointless, get?, single, Named.get?, if_pos rfl]

/-- The key of a group of one column, as a document. -/
theorem subdocument_group (column : String) (first : Document) (rest : List Document) :
    subdocument idField (groupDocument (.fields [column]) [] (first :: rest)) =
      .ok (Document.single column (first.groupValue column)) := by
  have key : (groupDocument (.fields [column]) [] (first :: rest)).getPath? idField =
      some ((GroupKey.fields [column]).value first) := by
    rw [groupDocument_eq, Document.getPath?_eq_get? (by decide)]
    rfl
  rw [subdocument, key]
  rfl

theorem mapM_subdocument (column : String) {parts : List (List Document)}
    (nonempty : ∀ part ∈ parts, part ≠ []) :
    (parts.map (groupDocument (.fields [column]) [])).mapM (subdocument idField) =
      .ok ((parts.filterMap List.head?).map fun doc =>
        Document.single column (doc.groupValue column)) := by
  induction parts with
  | nil => rfl
  | cons part rest ih =>
    rw [List.forall_mem_cons] at nonempty
    obtain ⟨first, others, rfl⟩ := List.exists_cons_of_ne_nil nonempty.1
    rw [List.map_cons, List.mapM_cons, subdocument_group, ih nonempty.2]
    rfl

/-- Grouping by one column and replacing each document by its key gives one document for each text
of a value. -/
theorem run_distinct (column : String) (docs : List Document) :
    Pipeline.run [.group (.fields [column]) [], .replaceRoot idField] docs =
      .ok ((firsts Value.writtenAlike (docs.map (·.groupValue column))).map
        (Document.single column)) := by
  let written := (GroupKey.fields [column]).written
  have values : (firsts (fun d e => written d == written e) docs).map (·.groupValue column) =
      firsts Value.writtenAlike (docs.map (·.groupValue column)) :=
    map_firsts fun d _ e _ => by
      rw [Bool.eq_iff_iff, beq_iff_eq]
      exact (sameKey_fields_iff [column] d e).trans (by simp [AlikeAt])
  have replaced := mapM_subdocument column (isGrouping_partsOf written docs).nonempty
  rw [heads_partsOf] at replaced
  rw [← values, List.map_map, Pipeline.run, Stage.run, groupDocuments_eq]
  change (((partsOf written docs).map (groupDocument (.fields [column]) [])).mapM
    (subdocument idField)).bind (fun docs => .ok docs) = _
  rw [replaced]
  rfl

/-- The documents of values in the order of the values. -/
theorem sortDocuments_single (name : IsName column) (descending : Bool) (values : List Value) :
    sortDocuments [⟨column, none, descending⟩] (values.map (Document.single column)) =
      (values.mergeSort (Value.leBy descending)).map (Document.single column) := by
  rw [sortDocuments_eq]
  refine (List.map_mergeSort fun a _ b _ => ?_).symm
  rw [Document.getPath?_single name, Document.getPath?_single name]
  cases descending <;> rfl

/-! ## The two ways -/

/-- The values without those that are loosely equal to an earlier one. -/
def distinct (values : List Value) : List Value := firsts Value.looseEq values

theorem foldl_addDistinct (values : List Value) :
    values.foldl Client.addDistinct [] = distinct values := rfl

/-- The values in the order of a direction, if there is one. -/
def ordered (direction : Option Bool) (values : List Value) : List Value :=
  direction.elim values fun descending => values.mergeSort (Value.leBy descending)

/-- The sort keys of a direction of one column. -/
def columnOrder (column : String) (direction : Option Bool) : Option SortKeys :=
  direction.map fun descending => [⟨column, none, descending⟩]

/-- Values that both ways take for the same: what is written alike is what is equal, and if there is
an order it is a chain. -/
structure Settled (direction : Option Bool) (values : List Value) : Prop where
  equality : ∀ v ∈ values, ∀ w ∈ values, v.writtenAlike w = v.looseEq w
  chain : direction.isSome = true → Value.IsChain values

variable {direction : Option Bool} {docs : List Document}

/-- Plain values with an order in common, null among them, are settled. -/
theorem settled_of_plain {values : List Value} (plain : ∀ v ∈ values, v.isPlain = true)
    (noFloats : ∀ v ∈ values, v.hasFloat = false)
    (together : ∀ v ∈ values, ∀ w ∈ values,
      v.isNull = true ∨ w.isNull = true ∨ comparable v w = true) :
    Settled direction values where
  equality v inV w inW := Value.writtenAlike_eq_looseEq (plain v inV) (plain w inW)
  chain _ := Value.isChain_of_comparable noFloats together

theorem map_arranged (settled : Settled direction (docs.map (·.groupValue column))) :
    (arranged (columnOrder column direction) docs).map (·.groupValue column) =
      ordered direction (docs.map (·.groupValue column)) := by
  cases direction with
  | none => rfl
  | some descending => exact map_sortDocuments (settled.chain rfl) descending

/-- Repetitions can be left out before or after ordering. -/
theorem distinct_ordered {values : List Value} (settled : Settled direction values) :
    distinct (ordered direction values) = ordered direction (distinct values) := by
  cases direction with
  | none => rfl
  | some descending =>
    exact firsts_mergeSort (Value.leBy_refl descending)
      (Value.orders_leBy (settled.chain rfl) descending)
      fun a _ b _ equal => (Value.level_leBy descending a b).trans (Value.level_of_looseEq equal)

/-- The groups of a column, in order, are its values in order without repetitions. -/
theorem arranged_groups (name : IsName column) {values : List Value}
    (settled : Settled direction values) :
    arranged (columnOrder column direction)
        ((firsts Value.writtenAlike values).map (Document.single column)) =
      (distinct (ordered direction values)).map (Document.single column) := by
  have same : firsts Value.writtenAlike values = distinct values := by
    have mapped := map_firsts (f := id) settled.equality
    rwa [List.map_id, List.map_id] at mapped
  rw [same, distinct_ordered settled]
  cases direction with
  | none => rfl
  | some descending => exact sortDocuments_single name descending _

/-! ## Cells -/

/-- The cells of a column, row by row. -/
def ResultTable.cells (table : ResultTable) (name : String) : List (Option Value) :=
  (List.range table.size).map fun row => table.get? row name

theorem flatten_single {value : Value} (plain : column = idField → value.isObject = false) :
    ResultTable.flatten (Document.single column value) = [(column, value)] := by
  cases value with
  | object members =>
    have other : column ≠ idField := fun same => by simp [Value.isObject] at plain; exact plain same
    simp [ResultTable.flatten, Document.single, ResultTable.spread, other, Named.insert]
  | _ => rfl

theorem columnNames_single (first : Value) (rest : List Value) :
    ResultTable.columnNames ((first :: rest).map fun value => [(column, value)]) = [column] := by
  have again (values : List Value) :
      ((values.map fun value => [(column, value)]).flatMap Named.keys).foldl
        (fun names name => ResultTable.insertName name names) [column] = [column] := by
    induction values with
    | nil => rfl
    | cons value values ih =>
      rw [List.map_cons, List.flatMap_cons, List.foldl_append]
      simpa [Named.keys, ResultTable.insertName] using ih
  exact again rest

theorem ofDocuments_single {first : Value} {rest : List Value}
    (plain : column = idField → ∀ value ∈ first :: rest, value.isObject = false) :
    ResultTable.ofDocuments ((first :: rest).map (Document.single column)) =
      ⟨[column], (first :: rest).map fun value => [value]⟩ := by
  have rows : ((first :: rest).map (Document.single column)).map ResultTable.flatten =
      (first :: rest).map fun value => [(column, value)] := by
    rw [List.map_map]
    exact List.map_congr_left fun value member => flatten_single fun same => plain same value member
  rw [ResultTable.ofDocuments, rows, columnNames_single, List.map_map]
  simp [Named.get?]

/-- The table of documents with one field has their values as its cells. -/
theorem cells_ofDocuments {values : List Value}
    (plain : column = idField → ∀ value ∈ values, value.isObject = false) :
    (ResultTable.ofDocuments (values.map (Document.single column))).cells column =
      values.map some := by
  cases values with
  | nil => rfl
  | cons first rest =>
    rw [ofDocuments_single plain]
    generalize first :: rest = values
    refine List.ext_getElem (by simp [ResultTable.cells, ResultTable.size]) fun row inTable _ => ?_
    have inside : row < values.length := by
      simpa [ResultTable.cells, ResultTable.size] using inTable
    simp [ResultTable.cells, ResultTable.get?, ResultTable.column?, List.idxOf?_cons,
      List.getElem?_eq_getElem inside]

end DocQuery

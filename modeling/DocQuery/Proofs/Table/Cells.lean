import DocQuery.Proofs.Value.OrderedFields
import DocQuery.Table.Basic

/-! # The cells of a table

A table has a column for every field of its documents, but an identifier that is an object gives its
members instead of itself. Where a member has the name of another field, the one that comes later in
the order of the fields stands in the cell.

* `Document.ownField?`, `Document.idMember?`, `Document.cell?` — what a document has for a column.
* `ResultTable.get?_flatten` — the row that is made of a document.
* `ResultTable.sorted_columnNames`, `ResultTable.mem_columnNames_iff` — the columns of some rows.
* `ResultTable.IsTableOf`, `ResultTable.isTableOf_ofDocuments` — the table as a whole.
-/

namespace DocQuery

/-! ## Two parts of a map -/

namespace Named

variable {α : Type} {entries front back : Named α} {name key : String} {value : α}

instance (entries : Named α) : Decidable (Sorted entries) :=
  inferInstanceAs (Decidable (entries.Pairwise fun a b => a.1 < b.1))

theorem get?_append (name : String) (front back : Named α) :
    get? name (front ++ back) = (get? name front).or (get? name back) := by
  induction front with
  | nil => rfl
  | cons entry front ih =>
    rw [List.cons_append, get?, get?]
    split
    · rfl
    · exact ih

theorem get?_eq_none (other : ∀ entry ∈ entries, entry.1 ≠ name) : get? name entries = none := by
  rw [← Option.not_isSome_iff_eq_none, ← mem_keys_iff, keys, List.mem_map]
  rintro ⟨entry, member, same⟩
  exact other entry member same

theorem get?_ofList_append (name : String) (front back : List (String × α)) :
    get? name (ofList (front ++ back)) =
      (get? name (ofList back)).or (get? name (ofList front)) := by
  rw [get?_ofList, get?_ofList, get?_ofList, List.reverse_append, List.find?_append, Option.map_or]

/-- The entries around one of a map in order: the names in front come before its name, and those
behind come after it. -/
theorem exists_around (sorted : Sorted entries) (found : get? key entries = some value) :
    ∃ front back, entries = front ++ (key, value) :: back ∧ Sorted front ∧ Sorted back ∧
      (∀ entry ∈ front, entry.1 < key) ∧ ∀ entry ∈ back, key < entry.1 := by
  obtain ⟨front, back, rfl⟩ := List.append_of_mem (mem_of_get? found)
  obtain ⟨inFront, behind, across⟩ := List.pairwise_append.mp sorted
  obtain ⟨after, inBack⟩ := List.pairwise_cons.mp behind
  exact ⟨front, back, rfl, inFront, inBack,
    fun entry member => across entry member _ List.mem_cons_self, after⟩

end Named

/-! ## What a document has for a column -/

namespace Document

/-- The field of a name, unless it is an identifier that is an object. -/
def ownField? (doc : Document) (name : String) : Option Value :=
  (doc.get? name).filter fun value => !(name == idField && value.isObject)

/-- The member of a name in an identifier that is an object. -/
def idMember? (doc : Document) (name : String) : Option Value :=
  (doc.id?.bind Value.asObject?).bind (Named.get? name)

theorem ownField?_eq {doc : Document} {name : String}
    (plain : name = idField → ∀ value, doc.get? name = some value → value.isObject = false) :
    doc.ownField? name = doc.get? name := by
  rw [ownField?]
  cases found : doc.get? name with
  | none => rfl
  | some value =>
    by_cases same : name = idField
    · simp [plain same value found]
    · simp [same]

/-- What a document has for a column: its field or the member of its identifier, and of both the one
that comes later. -/
def cell? (doc : Document) (name : String) : Option Value :=
  match doc.ownField? name, doc.idMember? name with
  | some own, some member => some (if idField < name then own else member)
  | some own, none => some own
  | none, found => found

theorem isSome_cell? (doc : Document) (name : String) : (doc.cell? name).isSome = true ↔
    (doc.ownField? name).isSome = true ∨ (doc.idMember? name).isSome = true := by
  rw [cell?]
  cases doc.ownField? name <;> cases doc.idMember? name <;> simp

end Document

namespace ResultTable

open Document

/-! ## Rows -/

/-- The entries that a field gives a row. -/
def entriesOf (field : String × Value) : Named Value :=
  match field with
  | (name, .object members) => if name == idField then members else [(name, .object members)]
  | (name, value) => [(name, value)]

theorem entriesOf_eq {field : String × Value}
    (plain : field.1 = idField → field.2.isObject = false) : entriesOf field = [field] := by
  obtain ⟨name, value⟩ := field
  cases value with
  | object members =>
    have other : name ≠ idField := fun same => by cases plain same
    simp [entriesOf, other]
  | _ => rfl

theorem flatMap_entriesOf {fields : Named Value}
    (single : ∀ field ∈ fields, entriesOf field = [field]) : fields.flatMap entriesOf = fields := by
  rw [List.flatMap_congr single, ← List.map_eq_flatMap, List.map_id']

theorem flatten_eq (doc : Document) :
    flatten doc = Named.ofList (doc.fields.flatMap entriesOf) := by
  have spread_eq (row : Named Value) (field : String × Value) :
      spread row field =
        (entriesOf field).foldl (fun row entry => Named.insert entry.1 entry.2 row) row := by
    obtain ⟨name, value⟩ := field
    cases value with
    | object members =>
      by_cases same : name = idField <;> simp [spread, entriesOf, same]
    | _ => rfl
  rw [flatten, Named.ofList, List.foldl_flatMap]
  congr
  funext row field
  exact spread_eq row field

/-- An identifier that is no object is a column like the other fields. -/
theorem get?_flatten_of_plain {doc : Document} (sorted : Named.Sorted doc.fields)
    (plain : ∀ id, doc.id? = some id → id.isObject = false) (name : String) :
    Named.get? name (flatten doc) = doc.get? name := by
  have single : ∀ field ∈ doc.fields, entriesOf field = [field] := by
    rintro ⟨key, value⟩ member
    refine entriesOf_eq ?_
    rintro rfl
    refine plain value ?_
    rw [Document.id?, Document.get?, ← Named.get?_ofList_of_sorted sorted,
      Named.get?_ofList_of_mem (Named.nodup_keys sorted) member]
  rw [flatten_eq, flatMap_entriesOf single, Named.get?_ofList_of_sorted sorted]
  rfl

/-- An identifier that is an object is one part of the row, between the fields before and behind
it. -/
theorem get?_flatten_of_members {doc : Document} {members : Named Value}
    (ordered : doc.IsOrdered) (found : doc.id? = some (.object members)) (name : String) :
    Named.get? name (flatten doc) =
      if name < idField then (Named.get? name members).or (doc.get? name)
      else if name = idField then Named.get? name members
      else (doc.get? name).or (Named.get? name members) := by
  obtain ⟨sorted, inside⟩ := Value.isOrdered_object_iff.mp ordered
  have sortedMembers : Named.Sorted members :=
    (Value.isOrdered_object_iff.mp (inside _ (Named.mem_of_get? found))).1
  obtain ⟨front, back, fields, inFront, inBack, before, after⟩ := Named.exists_around sorted found
  have entries : doc.fields.flatMap entriesOf = front ++ (members ++ back) := by
    have singleFront : ∀ field ∈ front, entriesOf field = [field] := fun field member =>
      entriesOf_eq fun same => absurd same (before field member).ne
    have singleBack : ∀ field ∈ back, entriesOf field = [field] := fun field member =>
      entriesOf_eq fun same => absurd same (after field member).ne'
    rw [fields, List.flatMap_append, List.flatMap_cons, flatMap_entriesOf singleFront,
      flatMap_entriesOf singleBack]
    rfl
  have row : Named.get? name (flatten doc) = ((Named.get? name back).or
      (Named.get? name members)).or (Named.get? name front) := by
    rw [flatten_eq, entries, Named.get?_ofList_append, Named.get?_ofList_append,
      Named.get?_ofList_of_sorted inFront, Named.get?_ofList_of_sorted inBack,
      Named.get?_ofList_of_sorted sortedMembers]
  have own : doc.get? name = (Named.get? name front).or
      ((if idField = name then some (.object members) else none).or (Named.get? name back)) := by
    rw [Document.get?, fields, Named.get?_append, Named.get?]
    split <;> simp
  have notFront (notBefore : ¬ name < idField) : Named.get? name front = none :=
    Named.get?_eq_none fun entry member same => notBefore (same ▸ before entry member)
  have notBack (notAfter : ¬ idField < name) : Named.get? name back = none :=
    Named.get?_eq_none fun entry member same => notAfter (same ▸ after entry member)
  rw [row, own]
  split
  · rename_i less
    simp [notBack (lt_asymm less), less.ne']
  · rename_i notLess
    split
    · rename_i same
      simp [notFront notLess, notBack (same ▸ lt_irrefl name)]
    · rename_i other
      simp [notFront notLess, Ne.symm other]

/-- The row of a document has what the document has for each column. -/
theorem get?_flatten {doc : Document} (ordered : doc.IsOrdered) (name : String) :
    Named.get? name (flatten doc) = doc.cell? name := by
  by_cases hoisted : ∃ members, doc.id? = some (.object members)
  · obtain ⟨members, found⟩ := hoisted
    have member : doc.idMember? name = Named.get? name members := by
      rw [idMember?, found]
      rfl
    rw [get?_flatten_of_members ordered found, cell?, member]
    by_cases same : name = idField
    · have own : doc.ownField? name = none := by
        rw [ownField?, same, show doc.get? idField = _ from found]
        rfl
      rw [own, if_neg (same ▸ lt_irrefl name), if_pos same]
    · rw [ownField?_eq fun identifier => absurd identifier same, if_neg same]
      rcases lt_or_gt_of_ne same with less | greater
      · cases doc.get? name <;> cases Named.get? name members <;> simp [less, lt_asymm less]
      · cases doc.get? name <;> cases Named.get? name members <;> simp [greater, lt_asymm greater]
  · have plain : ∀ id, doc.id? = some id → id.isObject = false := by
      intro id found
      cases id with
      | object members => exact absurd ⟨members, found⟩ hoisted
      | _ => rfl
    have member : doc.idMember? name = none := by
      rw [idMember?]
      cases found : doc.id? with
      | none => rfl
      | some id =>
        have := plain id found
        cases id <;> first | rfl | cases this
    have own : doc.ownField? name = doc.get? name :=
      ownField?_eq fun same value found => plain value (by rwa [same] at found)
    rw [get?_flatten_of_plain (Value.isOrdered_object_iff.mp ordered).1 plain, cell?, own, member]
    cases doc.get? name <;> rfl

/-! ## Columns -/

theorem mem_insertName {name other : String} {names : List String} :
    name ∈ insertName other names ↔ name = other ∨ name ∈ names := by
  fun_induction insertName other names <;> grind

theorem sorted_insertName {name : String} {names : List String} (sorted : names.Pairwise (· < ·)) :
    (insertName name names).Pairwise (· < ·) := by
  induction names with
  | nil => exact List.pairwise_singleton _ _
  | cons other rest ih =>
    obtain ⟨least, others⟩ := List.pairwise_cons.mp sorted
    rw [insertName]
    split
    · exact sorted
    · rename_i different
      split
      · rename_i before
        refine List.pairwise_cons.mpr ⟨fun later member => ?_, sorted⟩
        rcases List.mem_cons.mp member with rfl | behind
        · exact before
        · exact before.trans (least later behind)
      · rename_i notBefore
        refine List.pairwise_cons.mpr ⟨fun later member => ?_, ih others⟩
        rcases mem_insertName.mp member with rfl | behind
        · exact lt_of_le_of_ne (not_lt.mp notBefore) different
        · exact least later behind

/-- The names are in order, each once. -/
theorem sorted_columnNames (rows : List (Named Value)) : (columnNames rows).Pairwise (· < ·) := by
  unfold columnNames
  generalize rows.flatMap Named.keys = names
  induction names using List.reverseRecOn with
  | nil => exact List.Pairwise.nil
  | append_singleton names name ih =>
    rw [List.foldl_append]
    exact sorted_insertName ih

/-- A name is a column exactly if some row has an entry of that name. -/
theorem mem_columnNames_iff {rows : List (Named Value)} {name : String} :
    name ∈ columnNames rows ↔ ∃ row ∈ rows, (Named.get? name row).isSome = true := by
  have inserted (names : List String) :
      name ∈ names.foldl (fun kept name => insertName name kept) [] ↔ name ∈ names := by
    induction names using List.reverseRecOn with
    | nil => rfl
    | append_singleton names last ih =>
      rw [List.foldl_append, List.foldl_cons, List.foldl_nil, mem_insertName, ih, List.mem_append,
        List.mem_singleton, or_comm]
  rw [columnNames, inserted, List.mem_flatMap]
  simp only [Named.mem_keys_iff]

/-- A cell is below the name of its column, in the row of its document. -/
theorem get?_ofDocuments (docs : List Document) (row : Nat) (name : String) :
    (ofDocuments docs).get? row name =
      if name ∈ (ofDocuments docs).columns then
        docs[row]?.map fun doc => (Named.get? name (flatten doc)).getD .null
      else none := by
  rw [get?, column?]
  split
  · rename_i listed
    obtain ⟨index, found⟩ := Option.isSome_iff_exists.mp (List.isSome_idxOf?.mpr listed)
    obtain ⟨bound, here, -⟩ := List.idxOf?_eq_some_iff.mp found
    have column : (ofDocuments docs).columns[index]? = some name := by
      rw [List.getElem?_eq_getElem bound, here]
    rw [found]
    change (docs.map flatten |>.map _)[row]? >>= _ = _
    rw [List.getElem?_map, List.getElem?_map]
    cases docs[row]? with
    | none => rfl
    | some doc =>
      change ((ofDocuments docs).columns.map _)[index]? = _
      rw [List.getElem?_map, column]
      rfl
  · rename_i absent
    rw [List.idxOf?_eq_none_iff.mpr absent]
    rfl

/-! ## The table -/

/-- A table that shows some documents: what its columns, its rows and its cells are. -/
structure IsTableOf (table : ResultTable) (docs : List Document) : Prop where
  sorted : table.columns.Pairwise (· < ·)
  height : table.rows.length = docs.length
  width : ∀ row ∈ table.rows, row.length = table.columns.length
  mem_columns_iff : ∀ name, name ∈ table.columns ↔
    ∃ doc ∈ docs, (doc.ownField? name).isSome = true ∨ (doc.idMember? name).isSome = true
  get?_eq : ∀ row name, table.get? row name =
    if name ∈ table.columns then docs[row]?.map fun doc => (doc.cell? name).getD .null else none

/-- The table of some documents shows them. -/
theorem isTableOf_ofDocuments {docs : List Document} (ordered : ∀ doc ∈ docs, doc.IsOrdered) :
    (ofDocuments docs).IsTableOf docs where
  sorted := sorted_columnNames _
  height := by simp [ofDocuments]
  width row member := by
    obtain ⟨_, -, rfl⟩ := List.mem_map.mp member
    exact List.length_map _
  mem_columns_iff name := by
    have listed : name ∈ (ofDocuments docs).columns ↔
        ∃ row ∈ docs.map flatten, (Named.get? name row).isSome = true := mem_columnNames_iff
    simp only [listed, List.mem_map, exists_exists_and_eq_and, ← isSome_cell?]
    refine exists_congr fun doc => and_congr_right fun member => ?_
    rw [get?_flatten (ordered doc member)]
  get?_eq row name := by
    rw [get?_ofDocuments]
    split
    · cases found : docs[row]? with
      | none => rfl
      | some doc =>
        rw [Option.map_some, Option.map_some,
          get?_flatten (ordered doc (List.mem_of_getElem? found))]
    · rfl

/-- A member before the identifier, one behind it with the name of a field, and an identifier that
is no object. -/
theorem isTableOf_collisions :
    let docs : List Document := [
      ⟨[("A", .int64 1), ("_id", .object [("A", .int64 2), ("k", .int64 3), ("n", .int64 4)]),
        ("n", .int64 5)]⟩,
      ⟨[("_id", .int64 6), ("b", .null)]⟩]
    (∀ doc ∈ docs, doc.IsOrdered) ∧
      (ofDocuments docs).columns = ["A", "_id", "b", "k", "n"] ∧
      ["A", "_id", "b", "k", "n"].map ((ofDocuments docs).get? 0) =
        [some (.int64 2), some .null, some .null, some (.int64 3), some (.int64 5)] ∧
      (ofDocuments docs).get? 1 "_id" = some (.int64 6) := by
  intro docs
  have scalar (n : Int64) : (Value.int64 n).IsOrdered := .scalar rfl rfl
  have null : Value.null.IsOrdered := .scalar rfl rfl
  have members : (Value.object [("A", .int64 2), ("k", .int64 3), ("n", .int64 4)]).IsOrdered :=
    .object (by decide +kernel) (by simp [scalar])
  have ordered : ∀ doc ∈ docs, doc.IsOrdered := by
    rw [List.forall_mem_cons, List.forall_mem_singleton]
    exact ⟨.object (by decide +kernel) (by simp [scalar, members]),
      .object (by decide +kernel) (by simp [scalar, null])⟩
  have table := isTableOf_ofDocuments ordered
  refine ⟨ordered, rfl, ?_, ?_⟩
  · simp only [List.map_cons, List.map_nil, table.get?_eq]
    rfl
  · rw [table.get?_eq]
    rfl

end ResultTable

end DocQuery

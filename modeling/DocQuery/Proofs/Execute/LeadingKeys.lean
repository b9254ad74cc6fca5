import DocQuery.Proofs.Execute.StableOrder
import DocQuery.Proofs.Query.ColumnProjection
import DocQuery.Proofs.Value.NamedEntries

/-! # Leading sort keys

A sort key that looks at what an earlier key looks at never decides, in whatever direction it goes.
The other keys are the leading ones. They decide how documents are sorted, and where they name
top-level fields without conversions, nothing else does: two orders with different leading keys sort
some documents differently.

* `SortKey.subject`, `SortKeys.leading` — the keys that are the first to look at something.
* `sortDocuments_leading` — the leading keys sort alike.
* `Document.having` — documents that are told apart by the fields that they have.
* `sortDocuments_eq_iff` — which orders sort all documents alike.
-/

namespace DocQuery

/-- What a sort key looks at: a path, with the type that its value is converted to. -/
def SortKey.subject (key : SortKey) : String × Option CastTarget := (key.field, key.cast)

theorem SortKey.value?_of_subject {key other : SortKey} (same : other.subject = key.subject)
    (doc : Document) : other.value? doc = key.value? doc := by
  obtain ⟨field, cast⟩ := Prod.mk.inj same
  rw [value?, value?, field, cast]

namespace SortKeys

variable {key : SortKey} {keys others : SortKeys} {a b : Document}

/-- The keys that look at something that no earlier key looks at. -/
def leading : SortKeys → SortKeys
  | [] => []
  | key :: rest => key :: (leading rest).filter fun later => later.subject != key.subject

theorem mem_of_mem_leading (member : key ∈ keys.leading) : key ∈ keys := by
  induction keys with
  | nil => exact member
  | cons first rest ih =>
    rcases List.mem_cons.mp member with rfl | later
    · exact List.mem_cons_self
    · exact List.mem_cons_of_mem first (ih (List.mem_of_mem_filter later))

theorem nodup_leading (keys : SortKeys) : (keys.leading.map SortKey.subject).Nodup := by
  induction keys with
  | nil => exact List.nodup_nil
  | cons first rest ih =>
    rw [leading, List.map_cons, List.nodup_cons]
    refine ⟨?_, ih.sublist (List.filter_sublist.map _)⟩
    intro member
    obtain ⟨later, kept, same⟩ := List.mem_map.mp member
    simp [same] at kept

/-! ## Sorting by the leading keys -/

/-- Where a key does not tell two documents apart, keys that look at the same do not either. -/
theorem compare_filter_subject (ties : key.compare a b = .eq) (rest : SortKeys) :
    compare (rest.filter fun later => later.subject != key.subject) a b = compare rest a b := by
  induction rest with
  | nil => rfl
  | cons other rest ih =>
    by_cases same : other.subject = key.subject
    · have tiesToo : other.compare a b = .eq := by
        rw [SortKey.compare_eq_eq_iff] at ties ⊢
        rwa [SortKey.value?_of_subject same, SortKey.value?_of_subject same]
      rw [List.filter_cons_of_neg (by simp [same]), ih, compare, tiesToo]
      rfl
    · rw [List.filter_cons_of_pos (by simp [same]), compare, compare, ih]

theorem compare_leading (keys : SortKeys) (a b : Document) :
    compare keys.leading a b = compare keys a b := by
  induction keys with
  | nil => rfl
  | cons key rest ih =>
    rw [leading, compare, compare]
    cases order : key.compare a b with
    | lt => rfl
    | gt => rfl
    | eq => rw [compare_filter_subject order, ih]

end SortKeys

/-- Sorting is up to the leading keys. -/
theorem sortDocuments_leading (keys : SortKeys) (docs : List Document) :
    sortDocuments keys.leading docs = sortDocuments keys docs := by
  simp only [sortDocuments, SortKeys.compare_leading]

/-! ## Documents that have some fields -/

/-- The document with the given fields, all of them null. -/
def Document.having (names : List String) : Document := .ofList (names.map fun name => (name, .null))

theorem Document.get?_having (names : List String) (name : String) :
    (having names).get? name = if name ∈ names then some .null else none := by
  have found := Named.get?_ofList_filterMap (fun _ => some Value.null) names name
  simpa [having, ofList, get?, List.filterMap_eq_map'] using found

/-- Whether the key names a top-level field and converts nothing. -/
def SortKey.IsColumn (key : SortKey) : Prop := key.cast = none ∧ '.' ∉ key.field.toList

section columns

variable {key other : SortKey} {keys others : SortKeys} {s t : List String} {a b : Document}

open Document

theorem SortKey.value?_having (column : key.IsColumn) (names : List String) :
    key.value? (having names) = if key.field ∈ names then some .null else none := by
  rw [value?, column.1, getPath?_eq_get? column.2, get?_having]
  exact Option.map_id'

/-- Documents that both have the field of a key, or both lack it, are not told apart by it. -/
theorem SortKey.compare_having_eq (column : key.IsColumn) (both : key.field ∈ s ↔ key.field ∈ t) :
    key.compare (having s) (having t) = .eq := by
  rw [compare_eq_eq_iff, value?_having column, value?_having column]
  by_cases inside : key.field ∈ s
  · rw [if_pos inside, if_pos (both.mp inside)]
    exact .null
  · rw [if_neg inside, if_neg (inside ∘ both.mpr)]
    exact .missing

/-- A document without the field comes first, or last in descending order. -/
theorem SortKey.compare_having_lt (column : key.IsColumn)
    (first : key.field ∈ s ↔ key.descending = true)
    (second : key.field ∈ t ↔ key.descending = false) :
    key.compare (having s) (having t) = .lt := by
  rw [compare_eq_lt_iff, Before, value?_having column, value?_having column]
  cases direction : key.descending <;> simp only [direction, iff_true, reduceCtorEq, iff_false,
    Bool.false_eq_true] at first second <;> simp only [first, second, if_true, if_false,
    Bool.false_eq_true] <;> exact .missing _

/-! ## Orders that differ -/

/-- The field of a key where a document that has it comes first, and nothing otherwise. -/
def SortKey.firstNames (key : SortKey) : List String := if key.descending then [key.field] else []

/-- The field of a key where a document that has it comes last, and nothing otherwise. -/
def SortKey.lastNames (key : SortKey) : List String := if key.descending then [] else [key.field]

theorem SortKey.names_subset (key : SortKey) : key.firstNames ++ key.lastNames ⊆ [key.field] := by
  rw [firstNames, lastNames]
  cases key.descending <;> simp

theorem SortKey.names_subset_both (key other : SortKey) :
    (key.firstNames ++ other.lastNames) ++ (key.lastNames ++ other.firstNames) ⊆
      [key.field, other.field] := by
  simp only [firstNames, lastNames]
  cases key.descending <;> cases other.descending <;> simp

theorem SortKey.compare_swap (key : SortKey) (a b : Document) :
    key.compare b a = (key.compare a b).swap := by
  rw [compare, compare, compareFound_swap]
  cases key.descending <;> rfl

theorem SortKeys.compare_swap (keys : SortKeys) (a b : Document) :
    keys.compare b a = (keys.compare a b).swap := by
  induction keys with
  | nil => rfl
  | cons key rest ih => rw [compare, compare, key.compare_swap, ih, Ordering.swap_then]

theorem SortKey.compare_firstNames (key : SortKey) (column : key.IsColumn) :
    key.compare (having key.firstNames) (having key.lastNames) = .lt := by
  apply compare_having_lt column <;> simp [firstNames, lastNames]

theorem SortKeys.compare_self_ne_lt (keys : SortKeys) (a : Document) : keys.compare a a ≠ .lt := by
  intro less
  have swapped := keys.compare_swap a a
  rw [less] at swapped
  cases swapped

/-- One key has the first document in front of the second one, and another key the second one in
front of the first. -/
theorem SortKey.compare_names (column : key.IsColumn) (otherColumn : other.IsColumn)
    (different : key ≠ other) :
    key.compare (having (key.firstNames ++ other.lastNames))
        (having (key.lastNames ++ other.firstNames)) = .lt ∧
      other.compare (having (key.firstNames ++ other.lastNames))
        (having (key.lastNames ++ other.firstNames)) = .gt := by
  obtain ⟨field, cast, descending⟩ := key
  obtain ⟨otherField, otherCast, otherDescending⟩ := other
  obtain ⟨rfl, -⟩ := id column
  obtain ⟨rfl, -⟩ := id otherColumn
  -- one field can only be that of both keys if their directions are opposite
  have opposite : field = otherField → descending = !otherDescending := by
    rintro rfl
    cases descending <;> cases otherDescending <;> simp_all
  refine ⟨compare_having_lt column ?_ ?_, ?_⟩
  · grind [firstNames, lastNames]
  · grind [firstNames, lastNames]
  · rw [compare_swap, compare_having_lt otherColumn]
    · rfl
    · grind [firstNames, lastNames]
    · grind [firstNames, lastNames]

/-- Columns without repetitions have different fields. -/
theorem SortKeys.field_notMem (column : key.IsColumn) (columns : ∀ later ∈ keys, later.IsColumn)
    (nodup : ((key :: keys).map SortKey.subject).Nodup) : key.field ∉ keys.map SortKey.field := by
  intro member
  obtain ⟨later, inside, same⟩ := List.mem_map.mp member
  have subject : later.subject = key.subject :=
    Prod.ext same ((columns later inside).1.trans column.1.symm)
  exact (List.nodup_cons.mp nodup).1 (subject ▸ List.mem_map_of_mem inside)

/-- Different lists of columns without repetitions tell apart some documents that have nothing but
fields of these columns. -/
theorem SortKeys.exists_compare_ne (columns : ∀ key ∈ keys, key.IsColumn)
    (otherColumns : ∀ key ∈ others, key.IsColumn) (nodup : (keys.map SortKey.subject).Nodup)
    (otherNodup : (others.map SortKey.subject).Nodup) (different : keys ≠ others) :
    ∃ s t, s ++ t ⊆ keys.map SortKey.field ++ others.map SortKey.field ∧
      ¬ (keys.compare (having s) (having t) = .lt ↔
        others.compare (having s) (having t) = .lt) := by
  induction keys generalizing others with
  | nil =>
    cases others with
    | nil => exact absurd rfl different
    | cons other rest =>
      refine ⟨_, _, List.Subset.trans other.names_subset (by simp), fun same => ?_⟩
      have before := other.compare_firstNames (List.forall_mem_cons.mp otherColumns).1
      cases same.mpr (by rw [compare, before]; rfl)
  | cons key rest ih =>
    obtain ⟨column, restColumns⟩ := List.forall_mem_cons.mp columns
    cases others with
    | nil =>
      refine ⟨_, _, List.Subset.trans key.names_subset (by simp), fun same => ?_⟩
      cases same.mp (by rw [compare, key.compare_firstNames column]; rfl)
    | cons other others =>
      obtain ⟨otherColumn, othersColumns⟩ := List.forall_mem_cons.mp otherColumns
      by_cases first : key = other
      · subst first
        have absent := field_notMem column restColumns nodup
        have absentToo := field_notMem column othersColumns otherNodup
        obtain ⟨s, t, names, apart⟩ := ih restColumns othersColumns
          (List.nodup_cons.mp nodup).2 (List.nodup_cons.mp otherNodup).2
          fun same => different (same ▸ rfl)
        -- the documents lack the field of the first key, which leaves them to the other keys
        have lacking : key.field ∉ s ++ t := fun member =>
          (List.mem_append.mp (names member)).elim absent absentToo
        rw [List.mem_append, not_or] at lacking
        have ties := SortKey.compare_having_eq column (iff_of_false lacking.1 lacking.2)
        refine ⟨s, t, List.Subset.trans names ?_, ?_⟩
        · exact List.append_subset.mpr ⟨by simp, List.Subset.trans (by simp)
            (List.subset_append_right _ _)⟩
        · rwa [compare, compare, ties]
      · obtain ⟨before, behind⟩ := SortKey.compare_names column otherColumn first
        refine ⟨key.firstNames ++ other.lastNames, key.lastNames ++ other.firstNames, ?_, ?_⟩
        · exact List.Subset.trans (key.names_subset_both other) (by simp)
        · rw [compare, compare, before, behind]
          intro same
          cases same.mp rfl

/-- Two documents are swapped exactly if the second one comes first. -/
theorem sortDocuments_pair (keys : SortKeys) (a b : Document) :
    sortDocuments keys [b, a] = if keys.compare a b = .lt then [a, b] else [b, a] := by
  have order := keys.compare_swap a b
  rw [sortDocuments]
  cases less : keys.compare a b <;> simp [less] at order <;>
    simp [List.mergeSort, List.MergeSort.Internal.splitInTwo, order]

/-- Orders by columns sort all documents alike exactly if they have the same leading keys. -/
theorem sortDocuments_eq_iff (columns : ∀ key ∈ keys, key.IsColumn)
    (otherColumns : ∀ key ∈ others, key.IsColumn) :
    (∀ docs, sortDocuments keys docs = sortDocuments others docs) ↔
      keys.leading = others.leading := by
  constructor
  · intro sorted
    by_contra different
    obtain ⟨s, t, -, apart⟩ := SortKeys.exists_compare_ne
      (fun key member => columns key (SortKeys.mem_of_mem_leading member))
      (fun key member => otherColumns key (SortKeys.mem_of_mem_leading member))
      (SortKeys.nodup_leading keys) (SortKeys.nodup_leading others) different
    rw [SortKeys.compare_leading, SortKeys.compare_leading] at apart
    have pairs := sorted [having t, having s]
    rw [sortDocuments_pair, sortDocuments_pair] at pairs
    -- swapping two documents that are equal is no difference, but they are not told apart either
    have equal : having s = having t := by
      split at pairs <;> split at pairs
      · exact absurd (iff_of_true ‹_› ‹_›) apart
      · exact (List.cons.inj pairs).1
      · exact (List.cons.inj pairs).1.symm
      · exact absurd (iff_of_false ‹_› ‹_›) apart
    rw [equal] at apart
    exact apart (iff_of_false (keys.compare_self_ne_lt _) (others.compare_self_ne_lt _))
  · intro same docs
    rw [← sortDocuments_leading keys, same, sortDocuments_leading]

end columns

end DocQuery

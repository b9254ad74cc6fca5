import DocQuery.Proofs.Condition.FieldNames
import DocQuery.Proofs.Execute.Partition
import DocQuery.Proofs.Query.ColumnProjection
import DocQuery.Query.Plan

/-! # Conditions on group keys

A condition on group keys selects the same groups before grouping, where it is tested on documents,
and after it, where it is tested on the key below the identifier of a group.

* `Indistinct` — no comparison tells two fields apart.
* `indistinct_of_writtenAlike` — simple values that are written alike are not told apart.
* `Filter.comparesOnly`, `Filter.test_renamed` — conditions that compare fields, under other names.
* `groupDocuments_filter` — filtering and grouping in both orders.
* `indistinct_groupOf` — the key of a group against the fields of its documents.
-/

namespace DocQuery

open DocQuery.Text

/-! ## Fields that no comparison tells apart -/

/-- Whether every comparison holds of both fields or of neither. -/
def Indistinct (one other : Option Value) : Prop :=
  ∀ (op : Comparison) (value : Value), op.holds one value = op.holds other value

theorem Indistinct.symm {one other : Option Value} (same : Indistinct one other) :
    Indistinct other one :=
  fun op value => (same op value).symm

theorem Indistinct.trans {one other third : Option Value} (first : Indistinct one other)
    (second : Indistinct other third) : Indistinct one third :=
  fun op value => (first op value).trans (second op value)

/-- A missing field is not told apart from null. -/
theorem indistinct_missing (found : Option Value) :
    Indistinct (some (found.getD .null)) found := by
  intro op value
  cases found with
  | some v => rfl
  | none =>
    cases op <;> simp only [Option.getD_none, Comparison.holds, fieldEquals, fieldCompares] <;>
      cases value <;> rfl

namespace Value

/-- The values that have one form as JSON, integers of the two widths apart. -/
def isSimple : Value → Bool
  | .null | .bool _ | .int32 _ | .int64 _ | .string _ | .objectId _ => true
  | _ => false

/-- The value with a short integer as a long one. -/
def widened : Value → Value
  | .int32 n => .int64 n.toInt64
  | v => v

theorem toJson_widened (v : Value) : v.widened.toJson = v.toJson := by
  cases v <;> simp [widened, toJson]

theorem compare_widened (v x : Value) : v.widened.compare x = v.compare x := by
  cases v with
  | int32 n => cases x <;> simp [widened, compare, compareNumbers, isNumber, asInt?, asFloat?]
  | _ => rfl

theorem isExact_widened {v : Value} (simple : v.isSimple = true) : v.widened.isExact = true := by
  cases v <;> simp_all [isSimple, widened, isExact]

theorem hasFloat_widened {v : Value} (simple : v.isSimple = true) :
    v.widened.hasFloat = false := by
  cases v <;> simp_all [isSimple, widened, hasFloat]

end Value

/-- The width of an integer is not told apart. -/
theorem indistinct_widened (v : Value) : Indistinct (some v.widened) (some v) := by
  intro op value
  have order := v.compare_widened value
  cases v with
  | int32 n =>
    rw [Value.widened] at order ⊢
    cases op <;>
      simp only [Comparison.holds, fieldEquals, fieldCompares, Value.looseEq, order, comparable] <;>
      cases value <;> rfl
  | _ => rfl

open Value in
/-- Simple values that are written alike are not told apart. -/
theorem indistinct_of_writtenAlike {a b : Value} (one : a.isSimple = true)
    (other : b.isSimple = true) (alike : a.writtenAlike b = true) :
    Indistinct (some a) (some b) := by
  have same : a.widened.same b.widened = true := by
    rw [← writtenAlike_eq_same (isExact_widened one) (isExact_widened other), writtenAlike,
      toJson_widened, toJson_widened]
    exact alike
  have equal : a.widened = b.widened := eq_of_same same (hasFloat_widened one)
  exact (indistinct_widened a).symm.trans (equal ▸ indistinct_widened b)

/-! ## Conditions that compare fields -/

namespace Filter

mutual

/-- Whether every condition compares one of the named fields with values. -/
def comparesOnly (names : List String) : Filter → Bool
  | .empty => true
  | .compare _ field _ | .range field _ _ | .isIn field _ | .notIn field _ => field ∈ names
  | .present _ _ | .pattern _ _ _ => false
  | .all filters | .any filters => comparesOnlyList names filters

def comparesOnlyList (names : List String) : List Filter → Bool
  | [] => true
  | filter :: rest => comparesOnly names filter && comparesOnlyList names rest

end

/-- Whether the test of a document succeeds and the document passes. -/
def accepts (filter : Filter) (doc : Document) : Bool := filter.test doc matches .ok true

variable {filter : Filter} {docs : List Document}

/-- A filter without patterns selects what it accepts. -/
theorem select_eq_filter (tested : ∀ doc ∈ docs, ∃ passes, filter.test doc = .ok passes) :
    filter.select docs = .ok (docs.filter filter.accepts) := by
  induction docs with
  | nil => rfl
  | cons doc rest ih =>
    rw [List.forall_mem_cons] at tested
    obtain ⟨⟨passes, result⟩, others⟩ := tested
    have accepted : filter.accepts doc = passes := by
      rw [accepts, result]
      cases passes <;> rfl
    simp only [select, result, ih others, List.filter_cons, accepted, bind, Except.bind]

section Renamed

variable {names : List String} {rename : String → String} {doc other : Document}

mutual

/-- Under other names a filter tests a document like another one whose named fields are not told
apart from those, and the test succeeds. -/
theorem test_renamed {filter : Filter} (compares : filter.comparesOnly names = true)
    (fields : ∀ name ∈ names, Indistinct (doc.getPath? (rename name)) (other.getPath? name)) :
    ∃ passes, (filter.renamed rename).test doc = .ok passes ∧ filter.test other = .ok passes := by
  cases filter with
  | empty => exact ⟨true, rfl, rfl⟩
  | compare op field value =>
    have same := fields field (by simpa [comparesOnly] using compares)
    exact ⟨_, rfl, congrArg Except.ok (same op value).symm⟩
  | range field low high =>
    have same := fields field (by simpa [comparesOnly] using compares)
    refine ⟨_, rfl, congrArg Except.ok ?_⟩
    exact congrArg₂ and (same .gte low).symm (same .lte high).symm
  | isIn field values =>
    have same := fields field (by simpa [comparesOnly] using compares)
    refine ⟨_, rfl, congrArg (Except.ok ∘ values.any) (funext fun value => ?_)⟩
    exact (same .eq value).symm
  | notIn field values =>
    have same := fields field (by simpa [comparesOnly] using compares)
    refine ⟨_, rfl, congrArg (Except.ok ∘ (!·) ∘ values.any) (funext fun value => ?_)⟩
    exact (same .eq value).symm
  | present field expected => simp [comparesOnly] at compares
  | pattern field source options => simp [comparesOnly] at compares
  | all filters => exact testAll_renamed (by simpa [comparesOnly] using compares) fields
  | any filters => exact testAny_renamed (by simpa [comparesOnly] using compares) fields

theorem testAll_renamed {filters : List Filter} (compares : comparesOnlyList names filters = true)
    (fields : ∀ name ∈ names, Indistinct (doc.getPath? (rename name)) (other.getPath? name)) :
    ∃ passes, testAll doc (renamedList rename filters) = .ok passes ∧
      testAll other filters = .ok passes := by
  cases filters with
  | nil => exact ⟨true, rfl, rfl⟩
  | cons filter rest =>
    rw [comparesOnlyList, Bool.and_eq_true] at compares
    obtain ⟨first, here, there⟩ := test_renamed compares.1 fields
    rw [renamedList, testAll, testAll, here, there]
    cases first with
    | true => exact testAll_renamed compares.2 fields
    | false => exact ⟨false, rfl, rfl⟩

theorem testAny_renamed {filters : List Filter} (compares : comparesOnlyList names filters = true)
    (fields : ∀ name ∈ names, Indistinct (doc.getPath? (rename name)) (other.getPath? name)) :
    ∃ passes, testAny doc (renamedList rename filters) = .ok passes ∧
      testAny other filters = .ok passes := by
  cases filters with
  | nil => exact ⟨false, rfl, rfl⟩
  | cons filter rest =>
    rw [comparesOnlyList, Bool.and_eq_true] at compares
    obtain ⟨first, here, there⟩ := test_renamed compares.1 fields
    rw [renamedList, testAny, testAny, here, there]
    cases first with
    | true => exact ⟨true, rfl, rfl⟩
    | false => exact testAny_renamed compares.2 fields

end

end Renamed

end Filter

/-! ## Filtering and grouping -/

section Parts

variable {α : Type} {written : α → String} {docs : List α} {keep : String → Bool}

theorem eraseDups_filter (texts : List String) (keep : String → Bool) :
    (texts.filter keep).eraseDups = texts.eraseDups.filter keep := by
  induction texts using List.reverseRecOn with
  | nil => rfl
  | append_singleton texts text ih =>
    rw [List.filter_append, List.filter_singleton, eraseDups_concat]
    cases kept : keep text with
    | true =>
      by_cases known : text ∈ texts <;>
        simp [known, kept, eraseDups_concat, ih, List.filter_append]
    | false => by_cases known : text ∈ texts <;> simp [known, kept, ih, List.filter_append]

/-- Documents that are kept by their text keep the members of a text that is kept. -/
theorem membersOf_filter {text : String} (kept : keep text = true) :
    membersOf written (docs.filter fun d => keep (written d)) text =
      membersOf written docs text := by
  rw [membersOf, List.filter_filter]
  refine List.filter_congr fun d _ => ?_
  cases here : written d == text with
  | true => rw [beq_iff_eq.mp here, kept, Bool.and_true]
  | false => rfl

theorem partsOf_filter (written : α → String) (docs : List α) (keep : String → Bool) :
    partsOf written (docs.filter fun d => keep (written d)) =
      ((docs.map written).eraseDups.filter keep).map (membersOf written docs) := by
  have texts : (docs.filter fun d => keep (written d)).map written =
      (docs.map written).filter keep := by
    rw [List.filter_map]
    rfl
  rw [partsOf_eq, texts, eraseDups_filter]
  exact List.map_congr_left fun text member => membersOf_filter (List.mem_filter.mp member).2

end Parts

section Groups

variable {key : GroupKey} {outputs : List (String × Accumulator)} {docs : List Document}

/-- The document of the group that a document comes into. -/
def groupOf (key : GroupKey) (outputs : List (String × Accumulator)) (docs : List Document)
    (text : String) : Document :=
  groupDocument key outputs (membersOf key.written docs text)

theorem groupDocuments_eq_map (key : GroupKey) (outputs : List (String × Accumulator))
    (docs : List Document) : groupDocuments key outputs docs =
      (docs.map key.written).eraseDups.map (groupOf key outputs docs) := by
  rw [groupDocuments_eq, partsOf_eq, List.map_map]
  rfl

/-- Documents can be filtered by what is seen on the documents of their groups. -/
theorem groupDocuments_filter {accepts acceptsGroup : Document → Bool}
    (carried : ∀ doc ∈ docs,
      accepts doc = acceptsGroup (groupOf key outputs docs (key.written doc))) :
    groupDocuments key outputs (docs.filter accepts) =
      (groupDocuments key outputs docs).filter acceptsGroup := by
  rw [List.filter_congr carried, groupDocuments_eq,
    partsOf_filter key.written docs fun text => acceptsGroup (groupOf key outputs docs text),
    groupDocuments_eq_map, List.filter_map, List.map_map]
  rfl

end Groups

/-! ## The keys of a group -/

theorem segments_belowId (path : String) :
    segments (idField ++ "." ++ path) = idField :: segments path := by
  simp [segments, idField, splitAt]

variable {names : List String} {name : String} {doc : Document}

/-- A group key stands below the identifier of the group. -/
theorem getPath?_belowId {fields : List (String × Value)} {value : Value}
    (pointless : '.' ∉ name.toList) (id : doc.id? = some (.object fields))
    (found : Named.get? name fields = some value) :
    doc.getPath? (idField ++ "." ++ name) = some value := by
  rw [Document.id?, Document.get?] at id
  rw [Document.getPath?, segments_belowId, segments_of_pointless pointless]
  simp [Value.descend, id, found]

/-- The key of a group is not told apart from the field of any of its documents. -/
theorem indistinct_groupOf {outputs : List (String × Accumulator)} {docs : List Document}
    (noId : idField ∉ outputs.map (·.1)) (pointless : ∀ name ∈ names, '.' ∉ name.toList)
    (simple : ∀ doc ∈ docs, ∀ name ∈ names, (doc.groupValue name).isSimple = true)
    (member : doc ∈ docs) (listed : name ∈ names) :
    Indistinct
      ((groupOf (.fields names) outputs docs ((GroupKey.fields names).written doc)).getPath?
        (idField ++ "." ++ name))
      (doc.getPath? name) := by
  let members := membersOf (GroupKey.fields names).written docs ((GroupKey.fields names).written doc)
  have nonempty : members ≠ [] := membersOf_ne_nil (List.mem_map_of_mem member)
  obtain ⟨first, rest, begins⟩ := List.exists_cons_of_ne_nil nonempty
  obtain ⟨inside, alike⟩ := List.mem_filter.mp (begins ▸ List.mem_cons_self : first ∈ members)
  have id : (groupOf (.fields names) outputs docs ((GroupKey.fields names).written doc)).id? =
      some ((GroupKey.fields names).value first) := by
    rw [groupOf, groupDocument_eq, show membersOf _ docs _ = first :: rest from begins]
    refine (Named.get?_ofList_cons _ _ _ _).trans ?_
    rw [Named.get?_ofList_of_notMem (by rwa [List.map_map]), if_pos rfl]
    rfl
  have key := getPath?_belowId (pointless name listed) id
    (Named.get?_ofList_map first.groupValue listed)
  have same : AlikeAt names first doc :=
    (sameKey_fields_iff names first doc).mp (beq_iff_eq.mp alike)
  rw [key]
  exact (indistinct_of_writtenAlike (simple first inside name listed) (simple doc member name listed)
    (same name listed)).trans (indistinct_missing (doc.getPath? name))

end DocQuery

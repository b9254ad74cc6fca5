import DocQuery.Proofs.Execute.GroupCells
import DocQuery.Proofs.Query.DistinctColumn
import DocQuery.Proofs.Query.HavingCondition

/-! # References to group keys

HAVING and ORDER BY know a group key in any case of its letters, but they make the path by which it
is read out of the name as they have it.

* `SelectPlan.ReadsKey` — a path leads to the value of a key in every group.
* `SelectPlan.readsKey_belowId_iff` — when a path below the identifier does.
* `SelectPlan.readsKey_output_iff` — when a name as it stands does.
* `SelectPlan.groupPipeline_eq` — the stages of a grouping, with the paths they use.
* `key_references` — the references to keys in the clauses of a grouping.
* `renamed_key_is_missed` — a key in capitals.
-/

namespace DocQuery

open DocQuery.Text DocQuery.Condition

/-! ## Names in any case -/

theorem toLower_eq_point {c : Char} : c.toLower = '.' ↔ c = '.' := by
  constructor
  · intro lower
    unfold Char.toLower at lower
    split at lower
    · -- a capital letter becomes a letter
      rename_i range
      have code : (c.val + ('a'.val - 'A'.val)).toNat = '.'.val.toNat :=
        congrArg (·.val.toNat) lower
      have least : 'A'.val.toNat ≤ c.val.toNat := UInt32.le_iff_toNat_le.mp range.1
      have most : c.val.toNat ≤ 'Z'.val.toNat := UInt32.le_iff_toNat_le.mp range.2
      have codes : 'A'.val.toNat = 65 ∧ 'Z'.val.toNat = 90 ∧ ('a'.val - 'A'.val).toNat = 32 ∧
          '.'.val.toNat = 46 := by decide
      rw [UInt32.toNat_add] at code
      omega
    · exact lower
  · rintro rfl
    rfl

/-- Names that differ in case have their points at the same places. -/
theorem point_mem_iff {one other : String} (same : eqIgnoreCase one other = true) :
    '.' ∈ one.toList ↔ '.' ∈ other.toList := by
  have lower (s : String) : '.' ∈ s.toList.map Char.toLower ↔ '.' ∈ s.toList := by
    simp [List.mem_map, toLower_eq_point]
  rw [← lower one, ← lower other, beq_iff_eq.mp same]

namespace Document

variable {key : String} {value : Value}

/-- In a document with one field that has no parts the path of this field alone leads anywhere. -/
theorem getPath?_single_scalar (pointless : '.' ∉ key.toList) (noObject : value.isObject = false)
    (noArray : value.isArray = false) (path : String) :
    (single key value).getPath? path = if path = key then some value else none := by
  have field (name : String) :
      (single key value).get? name = if name = key then some value else none := by
    simp [get?, single, Named.get?, eq_comm]
  by_cases point : '.' ∈ path.toList
  · have other : path ≠ key := fun same => pointless (same ▸ point)
    obtain ⟨name, next, rest, cut⟩ := exists_segments_of_point point
    rw [if_neg other]
    by_cases here : name = key
    · exact getPath?_of_scalar cut (by rw [field, if_pos here]) noObject noArray
    · rw [getPath?_of_segments cut, field, if_neg here]
      rfl
  · rw [getPath?_eq_get? point, field]

theorem groupValue_single (pointless : '.' ∉ key.toList) (noObject : value.isObject = false)
    (noArray : value.isArray = false) (path : String) :
    (single key value).groupValue path = if path = key then value else .null := by
  rw [groupValue, getPath?_single_scalar pointless noObject noArray]
  split <;> rfl

end Document

/-- The instant of one microsecond behind the epoch. -/
def Time.Instant.microsecond : Time.Instant := ⟨.epoch, 0, 1000, by decide⟩

namespace SelectPlan

variable {plan : SelectPlan} {keys : List String} {path k ref : String}

/-- In the document of every group the path leads to the value of the key, that of the first
document of the group. -/
def ReadsKey (plan : SelectPlan) (keys : List String) (path k : String) : Prop :=
  ∀ docs, List.Forall₂
    (fun members group => group.getPath? path = members.head?.map (·.groupValue k))
    (partsOf (GroupKey.fields keys).written docs)
    (groupDocuments (.fields keys) (plan.groupOutputs keys) docs)

theorem readsKey_iff : plan.ReadsKey keys path k ↔
    ∀ docs, ∀ part ∈ partsOf (GroupKey.fields keys).written docs,
      (groupDocument (.fields keys) (plan.groupOutputs keys) part).getPath? path =
        part.head?.map (·.groupValue k) := by
  refine forall_congr' fun docs => ?_
  rw [groupDocuments_eq, List.forall₂_map_right_iff, List.forall₂_same]
  rfl

/-- The group of one document. -/
theorem ReadsKey.of_one (reads : plan.ReadsKey keys path k) (doc : Document) :
    (groupDocument (.fields keys) (plan.groupOutputs keys) [doc]).getPath? path =
      some (doc.groupValue k) :=
  readsKey_iff.mp reads [doc] [doc] List.mem_cons_self

/-- The group of two documents that are written alike. -/
theorem ReadsKey.of_two (reads : plan.ReadsKey keys path k) {one other : Document}
    (alike : AlikeAt keys one other) :
    (groupDocument (.fields keys) (plan.groupOutputs keys) [one, other]).getPath? path =
      some (one.groupValue k) := by
  have together : partsOf (GroupKey.fields keys).written [one, other] = [[one, other]] := by
    have same : (GroupKey.fields keys).written one = (GroupKey.fields keys).written other :=
      (sameKey_fields_iff keys one other).mpr alike
    simp [partsOf, joinPart, same]
  exact readsKey_iff.mp reads [one, other] [one, other] (by rw [together]; exact List.mem_cons_self)

/-! ## Below the identifier -/

/-- A path below the identifier leads into the object of the keys. -/
theorem getPath?_keys (noId : idField ∉ (plan.groupOutputs keys).map (·.1)) (first : Document)
    (rest : List Document) (path : String) :
    (groupDocument (.fields keys) (plan.groupOutputs keys) (first :: rest)).getPath?
        (idField ++ "." ++ path) =
      (Value.object (Named.ofList (keys.map fun key => (key, first.groupValue key)))).descend
        (segments path) := by
  rw [Document.getPath?_of_segments (segments_belowId path), id_groupDocument noId]
  rfl

/-- What the object of the keys of an empty document has at a path: Null at a key. -/
theorem descend_emptyKeys {name : String} {rest : List String} {found : Value}
    (held : (Value.object (Named.ofList (keys.map fun key =>
      (key, Document.empty.groupValue key)))).descend (name :: rest) = some found) :
    name ∈ keys ∧ rest = [] := by
  rw [Value.descend] at held
  by_cases listed : name ∈ keys
  · rw [Named.get?_ofList_map _ listed, Document.groupValue_empty] at held
    cases rest with
    | nil => exact ⟨listed, rfl⟩
    | cons next rest => cases held
  · rw [Named.get?_ofList_of_notMem (by simpa using listed)] at held
    cases held

/-- The key below the identifier is read exactly under its own spelling, if it is no path and no
output has the name of the identifier. -/
theorem readsKey_belowId_iff (listed : k ∈ keys) (named : eqIgnoreCase k ref = true) :
    plan.ReadsKey keys (idField ++ "." ++ ref) k ↔
      ref = k ∧ '.' ∉ k.toList ∧ idField ∉ (plan.groupOutputs keys).map (·.1) := by
  constructor
  · intro reads
    -- the key of the empty document is Null, and nothing else in its group is two steps deep
    have empty := reads.of_one .empty
    have noId : idField ∉ (plan.groupOutputs keys).map (·.1) := by
      intro output
      obtain ⟨shown, computed⟩ := mem_groupOutputs.mp output
      obtain ⟨acc, computed⟩ := Option.isSome_iff_exists.mp computed
      obtain ⟨noObject, noArray⟩ := acc.summary_empty
      obtain ⟨name, rest, cut⟩ := List.exists_cons_of_ne_nil (segments_ne_nil ref)
      have field : (groupDocument (.fields keys) (plan.groupOutputs keys) [.empty]).get? idField =
          some (acc.summary [.empty]) := by
        rw [get?_groupDocument, if_pos shown, computed]
        rfl
      have nothing :=
        Document.getPath?_of_scalar (cut ▸ segments_belowId ref) field noObject noArray
      rw [nothing] at empty
      cases empty
    obtain ⟨name, rest, cut⟩ := List.exists_cons_of_ne_nil (segments_ne_nil ref)
    rw [getPath?_keys noId, cut] at empty
    obtain ⟨nameListed, rfl⟩ := descend_emptyKeys empty
    have pointless : '.' ∉ ref.toList := by
      intro point
      obtain ⟨_, _, _, longer⟩ := exists_segments_of_point point
      simp [cut] at longer
    have keyPointless : '.' ∉ k.toList := fun point => pointless ((point_mem_iff named).mp point)
    obtain rfl : ref = name := by simpa [segments_of_pointless pointless] using cut
    -- so the path leads to a key, which can be another spelling of this one
    have one := reads.of_one (.single k (.int64 1))
    rw [getPath?_keys noId, cut, Value.descend, Named.get?_ofList_map _ nameListed,
      Option.bind_some, Value.descend, Option.some.injEq,
      Document.groupValue_single keyPointless rfl rfl,
      Document.groupValue_single keyPointless rfl rfl, if_pos rfl] at one
    refine ⟨?_, keyPointless, noId⟩
    by_contra other
    rw [if_neg other] at one
    cases one
  · rintro ⟨rfl, pointless, noId⟩
    refine readsKey_iff.mpr fun docs part member => ?_
    obtain ⟨first, rest, rfl⟩ := List.exists_cons_of_ne_nil
      ((isGrouping_partsOf (GroupKey.fields keys).written docs).nonempty part member)
    exact getPath?_belowId pointless (id_groupDocument noId)
      (Named.get?_ofList_map first.groupValue listed)

/-! ## The name of an output -/

theorem output?_of_call {field : String} {call : AggregateCall} (isCall : plan.aggregate = some call)
    (label : call.label = field) : plan.output? keys field = some (accumulator call) := by
  have found : plan.aggregate.filter (·.label == field) = some call := by
    simp [isCall, label, Option.filter]
  rw [output?, found]

theorem output?_of_key {field : String}
    (noCall : ∀ call, plan.aggregate = some call → call.label ≠ field)
    (isKey : names keys field = true) : plan.output? keys field = some (.first field) := by
  have absent : plan.aggregate.filter (·.label == field) = none := by
    rw [Option.filter_eq_none_iff]
    simpa using noCall
  rw [output?, absent]
  exact if_pos isKey

/-- A path of several segments is not read: outputs are stored under their whole names. -/
theorem not_readsKey_path (point : '.' ∈ ref.toList) (named : eqIgnoreCase k ref = true) :
    ¬ plan.ReadsKey keys ref k := by
  intro reads
  obtain ⟨name, next, rest, cut⟩ := exists_segments_of_point point
  have empty := reads.of_one .empty
  rw [Document.getPath?_of_segments cut] at empty
  by_cases output : name ∈ (plan.groupOutputs keys).map (·.1)
  · -- what an output says of the empty document has no parts
    obtain ⟨shown, computed⟩ := mem_groupOutputs.mp output
    obtain ⟨acc, computed⟩ := Option.isSome_iff_exists.mp computed
    obtain ⟨noObject, noArray⟩ := acc.summary_empty
    rw [get?_groupDocument, if_pos shown, computed, Option.map_some, Option.some_or,
      Option.bind_some, Value.descend_scalar noObject noArray] at empty
    cases empty
  · by_cases identifier : name = idField
    · -- the path leads to another key, below the identifier
      subst identifier
      rw [id_groupDocument output, Option.bind_some] at empty
      obtain ⟨listed, rfl⟩ := descend_emptyKeys empty
      have piece : next ∈ segments ref := by simp [cut]
      have pointless : '.' ∉ next.toList := pointless_of_mem_segments piece
      have other : k ≠ next := by
        rintro rfl
        exact pointless ((point_mem_iff named).mpr point)
      have one := reads.of_one (.single next (.int64 1))
      rw [Document.getPath?_of_segments cut, id_groupDocument output, Option.bind_some,
        Value.descend, Named.get?_ofList_map _ listed, Option.bind_some, Value.descend,
        Option.some.injEq, Document.groupValue_single pointless rfl rfl, if_pos rfl,
        Document.groupValue_single pointless rfl rfl, if_neg other] at one
      cases one
    · -- the group has no such field
      rw [mem_groupOutputs, not_and] at output
      rw [get?_groupDocument, if_neg (Ne.symm identifier), Option.or_none] at empty
      split at empty
      · rename_i shown
        rw [Option.not_isSome_iff_eq_none.mp (output shown)] at empty
        cases empty
      · cases empty

theorem alikeAt_instants {one other : Time.Instant} (pointless : '.' ∉ k.toList)
    (alike : (Value.instant one).writtenAlike (.instant other) = true) (keys : List String) :
    AlikeAt keys (.single k (.instant one)) (.single k (.instant other)) := by
  intro field _
  rw [Document.groupValue_single pointless rfl rfl, Document.groupValue_single pointless rfl rfl]
  split
  · exact alike
  · rfl

/-- What an aggregate call says of a group is not always the value of a key: of two instants within
one millisecond, which come into one group, the greatest or the least can be the second. -/
theorem exists_summary_ne (call : AggregateCall) (pointless : '.' ∉ k.toList)
    (keys : List String) :
    (∃ doc : Document, (accumulator call).summary [doc] ≠ doc.groupValue k) ∨
      ∃ one other : Document, AlikeAt keys one other ∧
        (accumulator call).summary [one, other] ≠ one.groupValue k := by
  have flag (path : String) : (Document.single k (.bool true)).getPath? path =
      if path = k then some (.bool true) else none :=
    Document.getPath?_single_scalar pointless rfl rfl path
  have time (t : Time.Instant) : (Document.single k (.instant t)).getPath? k = some (.instant t) :=
    (Document.getPath?_single_scalar pointless rfl rfl k).trans (if_pos rfl)
  have order : (Value.instant .microsecond).compare (.instant .epoch) = .gt ∧
      (Value.instant .epoch).compare (.instant .microsecond) = .lt := by decide +kernel
  have distinct : Time.Instant.microsecond ≠ .epoch := by decide
  cases call with
  | count label =>
    refine .inl ⟨.single k (.bool true), ?_⟩
    simp [accumulator, Accumulator.summary, Document.groupValue, flag, Tally.start, Tally.feed,
      Tally.result]
  | apply f field label =>
    by_cases here : field = k
    · subst here
      cases f with
      | sum | avg =>
        -- a flag is not added up
        refine .inl ⟨.single field (.bool true), ?_⟩
        simp [accumulator, Accumulator.summary, Document.groupValue, flag, Tally.start, Tally.feed,
          Tally.result, Group.input, Accumulator.field?, Value.asFloat?]
      | max =>
        refine .inr ⟨.single field (.instant .epoch), .single field (.instant .microsecond),
          alikeAt_instants pointless (by decide +kernel) keys, ?_⟩
        simp [accumulator, Accumulator.summary, Document.groupValue, time, Tally.start, Tally.feed,
          Tally.result, Group.input, Accumulator.field?, Tally.keepBetter, Value.isNull, order,
          distinct]
      | min =>
        refine .inr ⟨.single field (.instant .microsecond), .single field (.instant .epoch),
          alikeAt_instants pointless (by decide +kernel) keys, ?_⟩
        simp [accumulator, Accumulator.summary, Document.groupValue, time, Tally.start, Tally.feed,
          Tally.result, Group.input, Accumulator.field?, Tally.keepBetter, Value.isNull, order,
          distinct.symm]
    · refine .inl ⟨.single k (.bool true), ?_⟩
      cases f <;>
        simp [accumulator, Accumulator.summary, Document.groupValue, flag, here, Tally.start,
          Tally.feed, Tally.result, Group.input, Accumulator.field?, Tally.keepBetter]

theorem readsKey_output_iff (listed : k ∈ keys) (named : eqIgnoreCase k ref = true) :
    plan.ReadsKey keys ref k ↔ ref = k ∧ '.' ∉ k.toList ∧ k ∈ plan.fields ∧
      ∀ call, plan.aggregate = some call → call.label ≠ k := by
  have isKey : names keys ref = true := List.any_eq_true.mpr ⟨k, listed, named⟩
  constructor
  · intro reads
    have pointless : '.' ∉ ref.toList := fun point => not_readsKey_path point named reads
    have keyPointless : '.' ∉ k.toList := fun point => pointless ((point_mem_iff named).mp point)
    have cell (first : Document) (rest : List Document) :
        (groupDocument (.fields keys) (plan.groupOutputs keys) (first :: rest)).getPath? ref = _ :=
      (Document.getPath?_eq_get? pointless _).trans (plan.get?_groupDocument keys first rest ref)
    have shown : ref ∈ plan.fields := by
      by_contra hidden
      have empty := reads.of_one .empty
      rw [cell, if_neg hidden, Option.none_or, Document.groupValue_empty] at empty
      split at empty <;> cases empty
    have noCall : ∀ call, plan.aggregate = some call → call.label ≠ ref := by
      -- a call with the name of the key would take its place
      intro call isCall label
      have said (first : Document) (rest : List Document) :
          (groupDocument (.fields keys) (plan.groupOutputs keys) (first :: rest)).getPath? ref =
            some ((accumulator call).summary (first :: rest)) := by
        rw [cell, if_pos shown, output?_of_call isCall label]
        rfl
      obtain ⟨doc, differs⟩ | ⟨one, other, alike, differs⟩ :=
        exists_summary_ne call keyPointless keys
      · exact differs (Option.some.inj ((said doc []).symm.trans (reads.of_one doc)))
      · exact differs (Option.some.inj ((said one [other]).symm.trans (reads.of_two alike)))
    have one := reads.of_one (.single k (.int64 1))
    rw [cell, if_pos shown, output?_of_key noCall isKey, Option.map_some, Option.some_or,
      Option.some.injEq, Accumulator.summary_first, Document.groupValue_single keyPointless rfl rfl,
      Document.groupValue_single keyPointless rfl rfl, if_pos rfl] at one
    obtain rfl : ref = k := by
      by_contra other
      rw [if_neg other] at one
      cases one
    exact ⟨rfl, keyPointless, shown, noCall⟩
  · rintro ⟨rfl, pointless, shown, noCall⟩
    refine readsKey_iff.mpr fun docs part member => ?_
    obtain ⟨first, rest, rfl⟩ := List.exists_cons_of_ne_nil
      ((isGrouping_partsOf (GroupKey.fields keys).written docs).nonempty part member)
    rw [Document.getPath?_eq_get? pointless, get?_groupDocument, if_pos shown,
      output?_of_key noCall isKey, Option.map_some, Option.some_or, Accumulator.summary_first]
    rfl

end SelectPlan

/-! ## The pipeline -/

/-- A sort key with the path that its field has after grouping. -/
def SortKey.renamed (rename : String → String) (key : SortKey) : SortKey :=
  { key with field := rename key.field }

namespace OrderBy

theorem readKey_resolve (resolve : String → String) (s : List Char) :
    readKey resolve s = (readKey id s).map (·.renamed resolve) := by
  unfold readKey
  cases castKey? s with
  | some parts =>
    obtain ⟨field, target, descending⟩ := parts
    dsimp only
    cases CastTarget.ofName? target <;> rfl
  | none => cases plainKey? s <;> rfl

theorem mapM_readKey_resolve (resolve : String → String) (pieces : List (List Char)) :
    pieces.mapM (readKey resolve) =
      (pieces.mapM (readKey id)).map (·.map (·.renamed resolve)) := by
  induction pieces with
  | nil => rfl
  | cons piece rest ih =>
    rw [List.mapM_cons, List.mapM_cons, readKey_resolve, ih]
    cases readKey id piece with
    | error e => rfl
    | ok key => cases rest.mapM (readKey id) <;> rfl

end OrderBy

namespace SelectPlan

variable {plan : SelectPlan} {group : GroupBy}

theorem order_resolve (plan : SelectPlan) (resolve : String → String) :
    plan.order resolve = (plan.order id).map (Option.map (·.map (·.renamed resolve))) := by
  unfold order
  cases plan.orderBy with
  | none => rfl
  | some clause =>
    dsimp only
    rw [readOrder, readOrder, OrderBy.mapM_readKey_resolve]
    cases ((splitList clause.toList).filter (!·.isEmpty)).mapM (OrderBy.readKey id) <;> rfl

/-- The stages of a grouping, out of its clauses as they are written. -/
theorem groupPipeline_eq (grouped : plan.groupBy = some group) (filter : Filter)
    (params : Parameters) :
    plan.groupPipeline filter params = do
      let having ← group.having.mapM (compile .rows params)
      let order ← plan.order id
      return [.select filter, .group (.fields group.fields) (plan.groupOutputs group.fields)]
        ++ (having.map fun f => .select (f.renamed (Scope.groups group.fields).resolve)).toList
        ++ (order.map fun sort =>
            .sort (sort.map (·.renamed (plan.groupedPath group.fields)))).toList
        ++ plan.windowStages := by
  unfold groupPipeline
  rw [grouped]
  dsimp only
  rw [order_resolve]
  cases group.having with
  | none => cases plan.order id with
    | error e => rfl
    | ok order => cases order <;> rfl
  | some text =>
    dsimp only
    rw [compile_scope]
    change _ = ((compile .rows params text).map some).bind _
    cases compile .rows params text with
    | error e => rfl
    | ok having => cases plan.order id with
      | error e => rfl
      | ok order => cases order <;> rfl

end SelectPlan

/--
The stages of a grouping use the names in its clauses, with a prefix or as they are. Where a clause
names a key, in any case of its letters, a condition reads the value of the key in every group
exactly if it spells the key as GROUP BY does, the key is no path, and no output is called like the
identifier. A sort key does so on the same terms if its name is not selected; if it is, the key has
to be selected under its own spelling, and the call must not have its name.
-/
theorem key_references (plan : SelectPlan) {group : GroupBy} (grouped : plan.groupBy = some group)
    (filter : Filter) (params : Parameters) :
    let keys := group.fields
    (plan.groupPipeline filter params = do
      let having ← group.having.mapM (compile .rows params)
      let order ← plan.order id
      return [.select filter, .group (.fields keys) (plan.groupOutputs keys)]
        ++ (having.map fun f => .select (f.renamed (Scope.groups keys).resolve)).toList
        ++ (order.map fun sort => .sort (sort.map (·.renamed (plan.groupedPath keys)))).toList
        ++ plan.windowStages) ∧
    ∀ k ∈ keys, ∀ ref, eqIgnoreCase k ref = true →
      (plan.ReadsKey keys ((Scope.groups keys).resolve ref) k ↔
        ref = k ∧ '.' ∉ k.toList ∧ idField ∉ (plan.groupOutputs keys).map (·.1)) ∧
      (plan.ReadsKey keys (plan.groupedPath keys ref) k ↔
        ref = k ∧ '.' ∉ k.toList ∧
          if SelectPlan.names plan.fields ref then
            k ∈ plan.fields ∧ ∀ call, plan.aggregate = some call → call.label ≠ k
          else idField ∉ (plan.groupOutputs keys).map (·.1)) := by
  refine ⟨SelectPlan.groupPipeline_eq grouped filter params, fun k listed ref named => ?_⟩
  have isKey : SelectPlan.names group.fields ref = true := List.any_eq_true.mpr ⟨k, listed, named⟩
  have belowId : plan.ReadsKey group.fields (idField ++ "." ++ ref) k ↔ _ :=
    SelectPlan.readsKey_belowId_iff listed named
  constructor
  · rw [show (Scope.groups group.fields).resolve ref = idField ++ "." ++ ref from if_pos isKey]
    exact belowId
  · by_cases selected : SelectPlan.names plan.fields ref = true
    · rw [if_pos selected, SelectPlan.groupedPath, isKey, selected]
      exact SelectPlan.readsKey_output_iff listed named
    · rw [if_neg selected, SelectPlan.groupedPath, isKey, Bool.eq_false_iff.mpr selected]
      exact belowId

/-- A selected key, one that is not selected and one that is a path. -/
theorem key_references_of_three_keys :
    let keys := ["city", "kind", "at.hour"]
    let plan : SelectPlan := ⟨"t", ["city", "n"], none, some "city, kind", none, none, false,
      some (.count "n"), some ⟨keys, some "kind = 'a'"⟩, none⟩
    plan.ReadsKey keys ((Scope.groups keys).resolve "kind") "kind" ∧
      plan.ReadsKey keys (plan.groupedPath keys "kind") "kind" ∧
      plan.ReadsKey keys (plan.groupedPath keys "city") "city" ∧
      ¬ plan.ReadsKey keys (plan.groupedPath keys "CITY") "city" ∧
      ¬ plan.ReadsKey keys (plan.groupedPath keys "at.hour") "at.hour" := by
  intro keys plan
  have grouped : plan.groupBy = some ⟨keys, some "kind = 'a'"⟩ := rfl
  obtain ⟨-, references⟩ := key_references plan grouped .empty []
  have city := references "city" (by decide)
  have kind := references "kind" (by decide)
  have hour := references "at.hour" (by decide)
  have noId : idField ∉ (plan.groupOutputs keys).map (·.1) := by decide +kernel
  refine ⟨(kind "kind" rfl).1.mpr ⟨rfl, by decide, noId⟩, (kind "kind" rfl).2.mpr ⟨rfl, by decide, ?_⟩,
    (city "city" rfl).2.mpr ⟨rfl, by decide, ?_⟩, ?_, ?_⟩
  · exact noId
  · exact ⟨by decide, by rintro call ⟨⟩; decide⟩
  · exact fun reads => absurd ((city "CITY" (by decide)).2.mp reads).1 (by decide)
  · exact fun reads => absurd ((hour "at.hour" rfl).2.mp reads).2.1 (by decide)

/-- A condition on a key in capitals reads nothing in the group and misses it. -/
theorem renamed_key_is_missed :
    let keys := ["city"]
    let plan : SelectPlan :=
      ⟨"t", ["city", "n"], none, none, none, none, false, some (.count "n"), none, none⟩
    let docs : List Document := [⟨[("city", .string "bj")]⟩]
    eqIgnoreCase "city" "CITY" = true ∧
      (groupDocuments (.fields keys) (plan.groupOutputs keys) docs).map
        (·.getPath? ((Scope.groups keys).resolve "CITY")) = [none] ∧
      docs.map (·.groupValue "city") = [.string "bj"] ∧
      groupCount? ((plan.withHaving keys "city = 'bj'").grouped [] docs) = some 1 ∧
      groupCount? ((plan.withHaving keys "CITY = 'bj'").grouped [] docs) = some 0 :=
  ⟨by decide, rfl, rfl, by decide +kernel, by decide +kernel⟩

end DocQuery

import DocQuery.Proofs.Execute.GroupConditions

/-! # The fields of a group

What is found in the document of a group, by name and by path.

* `SelectPlan.output?` — what a grouping computes for a field.
* `SelectPlan.get?_groupDocument` — every field of the document of a group.
* `Accumulator.summary_first`, `Accumulator.summary_empty` — what accumulators say.
* `Document.getPath?_of_segments`, `Document.getPath?_of_scalar` — paths, piece by piece.
-/

namespace DocQuery

open DocQuery.Text

/-! ## Outputs -/

/-- The first value is that of the first document. -/
theorem Accumulator.summary_first (field : String) (doc : Document) (docs : List Document) :
    (Accumulator.first field).summary (doc :: docs) = doc.groupValue field := by
  have kept (value : Value) : docs.foldl
      (fun tally doc => tally.feed (Group.input doc (.first field))) (Tally.first (some value)) =
        Tally.first (some value) := by
    induction docs with
    | nil => rfl
    | cons next docs ih => exact ih
  rw [summary, List.foldl_cons, Tally.start]
  exact congrArg Tally.result (kept _)

namespace SelectPlan

variable {plan : SelectPlan} {keys : List String} {first : Document} {rest : List Document}

/-- What a grouping computes for a field of its result: the call, or the value of a key. -/
def output? (plan : SelectPlan) (keys : List String) (field : String) : Option Accumulator :=
  match plan.aggregate.filter (·.label == field) with
  | some call => some (accumulator call)
  | none => if names keys field then some (.first field) else none

theorem groupOutputs_eq (plan : SelectPlan) (keys : List String) :
    plan.groupOutputs keys =
      plan.fields.filterMap fun field => (plan.output? keys field).map (field, ·) := by
  refine congrArg (List.filterMap · plan.fields) (funext fun field => ?_)
  unfold output?
  cases plan.aggregate.filter (·.label == field) with
  | some call => rfl
  | none => cases names keys field <;> rfl

theorem mem_groupOutputs {name : String} : name ∈ (plan.groupOutputs keys).map (·.1) ↔
    name ∈ plan.fields ∧ (plan.output? keys name).isSome = true := by
  rw [groupOutputs_eq]
  simp only [List.mem_map, List.mem_filterMap, Option.map_eq_some_iff, Option.isSome_iff_exists]
  constructor
  · rintro ⟨_, ⟨field, listed, acc, output, rfl⟩, rfl⟩
    exact ⟨listed, acc, output⟩
  · rintro ⟨listed, acc, output⟩
    exact ⟨(name, acc), ⟨name, listed, acc, output, rfl⟩, rfl⟩

/-- A field of a group is an output, or else the key. -/
theorem get?_groupDocument (plan : SelectPlan) (keys : List String) (first : Document)
    (rest : List Document) (name : String) :
    (groupDocument (.fields keys) (plan.groupOutputs keys) (first :: rest)).get? name =
      (if name ∈ plan.fields then (plan.output? keys name).map (·.summary (first :: rest))
        else none).or
      (if idField = name then some ((GroupKey.fields keys).value first) else none) := by
  have cells : ((plan.groupOutputs keys).map fun output => (output.1, output.2.summary (first :: rest))) =
      plan.fields.filterMap fun field =>
        ((plan.output? keys field).map (·.summary (first :: rest))).map (field, ·) := by
    rw [groupOutputs_eq, List.map_filterMap]
    simp only [Option.map_map]
    rfl
  -- the key is entered before the outputs, any of which can take its place
  rw [groupDocument_eq, Document.get?, Document.ofList, cells, Named.get?_ofList_cons,
    Named.get?_ofList_filterMap]
  rfl

/-- Where no output has its name, the identifier of a group is an object of the keys. -/
theorem id_groupDocument (noId : idField ∉ (plan.groupOutputs keys).map (·.1)) :
    (groupDocument (.fields keys) (plan.groupOutputs keys) (first :: rest)).get? idField =
      some (.object (Named.ofList (keys.map fun key => (key, first.groupValue key)))) := by
  rw [mem_groupOutputs, not_and] at noId
  rw [get?_groupDocument, if_pos rfl]
  split
  · rename_i listed
    rw [Option.not_isSome_iff_eq_none.mp (noId listed)]
    rfl
  · rfl

end SelectPlan

/-! ## Paths -/

namespace Value

variable {value : Value}

theorem descend_scalar (noObject : value.isObject = false) (noArray : value.isArray = false)
    (name : String) (rest : List String) : value.descend (name :: rest) = none := by
  cases value <;> simp_all [descend, isObject, isArray]

end Value

namespace Document

variable {doc : Document} {path key name : String} {rest : List String} {value : Value}

theorem getPath?_of_segments (cut : segments path = name :: rest) :
    doc.getPath? path = (doc.get? name).bind (·.descend rest) := by
  rw [getPath?, cut, Value.descend, get?]

/-- Below a value that has no parts nothing is found. -/
theorem getPath?_of_scalar {next : String} (cut : segments path = name :: next :: rest)
    (found : doc.get? name = some value) (noObject : value.isObject = false)
    (noArray : value.isArray = false) : doc.getPath? path = none := by
  rw [getPath?_of_segments cut, found]
  exact Value.descend_scalar noObject noArray next rest

theorem getPath?_empty (path : String) : empty.getPath? path = none := by
  obtain ⟨name, rest, cut⟩ := List.exists_cons_of_ne_nil (segments_ne_nil path)
  rw [getPath?_of_segments cut]
  rfl

theorem groupValue_empty (path : String) : empty.groupValue path = .null := by
  rw [groupValue, getPath?_empty]
  rfl

end Document

/-- What is said of an empty document has no parts. -/
theorem Accumulator.summary_empty (acc : Accumulator) :
    (acc.summary [.empty]).isObject = false ∧ (acc.summary [.empty]).isArray = false := by
  cases acc <;>
    simp [summary, Tally.start, Group.input, field?, Document.getPath?_empty, Tally.feed,
      Tally.result, Tally.keepBetter, Value.isObject, Value.isArray]

end DocQuery

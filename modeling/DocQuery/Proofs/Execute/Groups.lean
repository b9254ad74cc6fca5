import DocQuery.Execute.Run
import DocQuery.Proofs.Execute.Parts
import DocQuery.Proofs.Value.NamedEntries
import DocQuery.Proofs.Value.WrittenAlike

/-! # Groups

A group stage puts together the documents whose keys are written alike. Where all values of the
group fields are plain these are the documents with loosely equal values.

* `groupDocuments_eq` — the documents of the stage, one for each part.
* `sameKey_fields_iff` — keys are written alike exactly if the values of all fields are.
* `group_fields` — grouping by fields, by what is written and by loose equality.
-/

namespace DocQuery

/-- How the key of a document is written. -/
def GroupKey.written (key : GroupKey) (doc : Document) : String := Group.write (key.value doc)

namespace Group

variable {key : GroupKey} {outputs : List (String × Accumulator)} {doc : Document}
  {part : List Document} {parts : List (List Document)}

/-- The group of some documents, with the key of the first. -/
def gather (key : GroupKey) (outputs : List (String × Accumulator)) (part : List Document) :
    Group :=
  part.foldl (fun g doc => g.feed outputs doc)
    (start outputs (part.head?.elim .null key.value))

theorem gather_concat (nonempty : part ≠ []) :
    gather key outputs (part ++ [doc]) = (gather key outputs part).feed outputs doc := by
  obtain ⟨first, rest, rfl⟩ := List.exists_cons_of_ne_nil nonempty
  simp [gather]

theorem written_gather (first : Document) (rest : List Document) :
    (gather key outputs (first :: rest)).written = key.written first := by
  have kept (g : Group) (docs : List Document) :
      (docs.foldl (fun g doc => g.feed outputs doc) g).written = g.written := by
    induction docs generalizing g with
    | nil => rfl
    | cons doc docs ih => rw [List.foldl_cons, ih]; rfl
  rw [gather, kept]
  rfl

/-- A group has the key of a document exactly if one of its documents has. -/
theorem any_written (outputs : List (String × Accumulator)) (doc : Document)
    (nonempty : part ≠ [])
    (together : ∀ d ∈ part, ∀ e ∈ part, SameKey key.written d e) :
    part.any (key.written · == key.written doc) =
      ((gather key outputs part).written == key.written doc) := by
  obtain ⟨first, rest, rfl⟩ := List.exists_cons_of_ne_nil nonempty
  rw [written_gather, Bool.eq_iff_iff, List.any_eq_true, beq_iff_eq]
  constructor
  · rintro ⟨e, inside, same⟩
    exact (together first List.mem_cons_self e inside).trans (by simpa using same)
  · exact fun same => ⟨first, List.mem_cons_self, by simpa using same⟩

/-- Placing a document among groups is putting it into a part. -/
theorem place_gather (nonempty : ∀ part ∈ parts, part ≠ [])
    (together : ∀ part ∈ parts, ∀ d ∈ part, ∀ e ∈ part, SameKey key.written d e) :
    place outputs (key.value doc) doc (parts.map (gather key outputs)) =
      (joinPart key.written doc parts).map (gather key outputs) := by
  induction parts with
  | nil => rfl
  | cons part rest ih =>
    rw [List.forall_mem_cons] at nonempty together
    have test := any_written outputs doc nonempty.1 together.1
    by_cases here : part.any (key.written · == key.written doc) = true
    · have found : ((gather key outputs part).written == write (key.value doc)) = true :=
        test.symm.trans here
      rw [List.map_cons, place, if_pos found, joinPart, if_pos here, List.map_cons,
        gather_concat nonempty.1]
    · have absent : ¬((gather key outputs part).written == write (key.value doc)) = true :=
        fun found => here (test.trans found)
      rw [List.map_cons, place, if_neg absent, joinPart, if_neg here, List.map_cons,
        ih nonempty.2 together.2]

end Group

/-- The documents of a group stage, one for each part. -/
theorem groupDocuments_eq (key : GroupKey) (outputs : List (String × Accumulator))
    (docs : List Document) :
    groupDocuments key outputs docs =
      (partsOf key.written docs).map fun part =>
        (Group.gather key outputs part).toDocument outputs := by
  have groups : docs.foldl (fun groups doc => Group.place outputs (key.value doc) doc groups) [] =
      (partsOf key.written docs).map (Group.gather key outputs) := by
    induction docs using List.reverseRecOn with
    | nil => rfl
    | append_singleton docs doc ih =>
      have grouping := isGrouping_partsOf key.written docs
      rw [List.foldl_append, ih, partsOf_concat]
      exact Group.place_gather grouping.nonempty grouping.together
  rw [groupDocuments, groups, List.map_map]
  rfl

/-! ## Keys of fields -/

namespace Named

variable {β : Type}

theorem mem_insert {name other : String} (names : Named Unit) :
    (other, ()) ∈ insert name () names ↔ other = name ∨ (other, ()) ∈ names := by
  fun_induction insert name () names <;> grind

/-- The different names of a list in their order. -/
def ofNames (names : List String) : Named Unit := ofList (names.map fun name => (name, ()))

theorem ofNames_concat (names : List String) (name : String) :
    ofNames (names ++ [name]) = insert name () (ofNames names) := by
  simp [ofNames, ofList]

/-- A map of all names to the values of a function has the different names in their order. -/
theorem ofList_map (f : String → β) (names : List String) :
    ofList (names.map fun name => (name, f name)) =
      (ofNames names).map fun entry => (entry.1, f entry.1) := by
  rw [ofNames, map_ofList fun name _ => f name, List.map_map]
  rfl

theorem mem_ofNames {name : String} (names : List String) :
    (name, ()) ∈ ofNames names ↔ name ∈ names := by
  induction names using List.reverseRecOn with
  | nil => simp [ofNames, ofList]
  | append_singleton names last ih =>
    rw [ofNames_concat, mem_insert, ih, List.mem_append, List.mem_singleton, or_comm]

end Named

/-- The value of a field that documents are grouped by, null if there is none. -/
def Document.groupValue (d : Document) (field : String) : Value := (d.getPath? field).getD .null

theorem alikeMembers_map (v w : String → Value) (names : Named Unit) :
    Json.alikeMembers (Value.toJsonFields (names.map fun entry => (entry.1, v entry.1)))
      (Value.toJsonFields (names.map fun entry => (entry.1, w entry.1))) =
        names.all fun entry => (v entry.1).writtenAlike (w entry.1) := by
  induction names with
  | nil => rfl
  | cons entry rest ih =>
    simp [Value.toJsonFields, Json.alikeMembers, ih, Value.writtenAlike]

/-- Whether the values of all fields are written alike in two documents. -/
def AlikeAt (names : List String) (d e : Document) : Prop :=
  ∀ f ∈ names, (d.groupValue f).writtenAlike (e.groupValue f) = true

/-- Whether the values of all fields are loosely equal in two documents. -/
def EqualAt (names : List String) (d e : Document) : Prop :=
  ∀ f ∈ names, (d.groupValue f).looseEq (e.groupValue f) = true

/-- Keys of fields are written alike exactly if the values of all fields are. -/
theorem sameKey_fields_iff (names : List String) (d e : Document) :
    SameKey (GroupKey.fields names).written d e ↔ AlikeAt names d e := by
  have alike : ((GroupKey.fields names).value d).writtenAlike ((GroupKey.fields names).value e) =
      (Named.ofNames names).all fun entry =>
        (d.groupValue entry.1).writtenAlike (e.groupValue entry.1) := by
    rw [Value.writtenAlike, GroupKey.value, GroupKey.value, Named.ofList_map, Named.ofList_map]
    exact alikeMembers_map d.groupValue e.groupValue _
  rw [SameKey, GroupKey.written, GroupKey.written, Group.write, Group.write,
    Value.text_toJson_eq_iff, alike, List.all_eq_true]
  constructor
  · exact fun every f member => every (f, ()) ((Named.mem_ofNames names).mpr member)
  · exact fun every entry member => every entry.1 ((Named.mem_ofNames names).mp member)

theorem alikeAt_iff_equalAt {names : List String} {d e : Document}
    (one : ∀ f ∈ names, (d.groupValue f).isPlain = true)
    (other : ∀ f ∈ names, (e.groupValue f).isPlain = true) :
    AlikeAt names d e ↔ EqualAt names d e :=
  forall₂_congr fun f member => by
    rw [Value.writtenAlike_eq_looseEq (one f member) (other f member)]

/-! ## Grouping by fields -/

/-- The document of the group of some documents. -/
def groupDocument (key : GroupKey) (outputs : List (String × Accumulator)) (part : List Document) :
    Document :=
  (Group.gather key outputs part).toDocument outputs

/--
Grouping by fields puts the documents together whose values are written alike at every field. That
is grouping by loose equality exactly if both relations agree on the documents, as they do on plain
values.
-/
theorem group_fields (names : List String) (outputs : List (String × Accumulator))
    (docs : List Document) :
    ∃ parts, (Stage.group (.fields names) outputs).run docs =
        .ok (parts.map (groupDocument (.fields names) outputs)) ∧
      IsGrouping (AlikeAt names) docs parts ∧
      (IsGrouping (EqualAt names) docs parts ↔
        ∀ d ∈ docs, ∀ e ∈ docs, AlikeAt names d e ↔ EqualAt names d e) ∧
      ((∀ d ∈ docs, ∀ f ∈ names, (d.groupValue f).isPlain = true) →
        IsGrouping (EqualAt names) docs parts) := by
  have written := isGrouping_partsOf (GroupKey.fields names).written docs
  have grouping : IsGrouping (AlikeAt names) docs (partsOf (GroupKey.fields names).written docs) :=
    written.congr_iff.mpr fun d _ e _ => sameKey_fields_iff names d e
  refine ⟨_, ?_, grouping, grouping.congr_iff, fun plain => ?_⟩
  · rw [Stage.run, groupDocuments_eq]
    rfl
  · exact grouping.congr_iff.mpr fun d ofD e ofE => alikeAt_iff_equalAt (plain d ofD) (plain e ofE)

/-- Integers of both widths, a missing field, null and an array are grouped by loose equality. -/
theorem group_fields_of_plain :
    ∃ parts, (Stage.group (.fields ["k"]) [("n", .count)]).run
        [⟨[("k", .int32 7)]⟩, ⟨[]⟩, ⟨[("k", .int64 7)]⟩, ⟨[("k", .null)]⟩,
          ⟨[("k", .array [.int64 7, .string "7"])]⟩] =
        .ok (parts.map (groupDocument (.fields ["k"]) [("n", .count)])) ∧
      IsGrouping (EqualAt ["k"])
        [⟨[("k", .int32 7)]⟩, ⟨[]⟩, ⟨[("k", .int64 7)]⟩, ⟨[("k", .null)]⟩,
          ⟨[("k", .array [.int64 7, .string "7"])]⟩] parts := by
  obtain ⟨parts, ran, -, -, plain⟩ := group_fields ["k"] [("n", .count)]
    [⟨[("k", .int32 7)]⟩, ⟨[]⟩, ⟨[("k", .int64 7)]⟩, ⟨[("k", .null)]⟩,
      ⟨[("k", .array [.int64 7, .string "7"])]⟩]
  exact ⟨parts, ran, plain (by decide +kernel)⟩

/-- Two instants within one millisecond are not equal, but come into one group. -/
theorem group_fields_joins_instants :
    ¬ ∃ parts, (Stage.group (.fields ["k"]) [("n", .count)]).run
        [⟨[("k", .instant ⟨.epoch, 0, 0, by decide⟩)]⟩,
          ⟨[("k", .instant ⟨.epoch, 0, 1000, by decide⟩)]⟩] =
        .ok (parts.map (groupDocument (.fields ["k"]) [("n", .count)])) ∧
      IsGrouping (EqualAt ["k"])
        [⟨[("k", .instant ⟨.epoch, 0, 0, by decide⟩)]⟩,
          ⟨[("k", .instant ⟨.epoch, 0, 1000, by decide⟩)]⟩] parts := by
  rintro ⟨parts, ran, grouping⟩
  have one : (groupDocuments (.fields ["k"]) [("n", .count)]
      [⟨[("k", .instant ⟨.epoch, 0, 0, by decide⟩)]⟩,
        ⟨[("k", .instant ⟨.epoch, 0, 1000, by decide⟩)]⟩]).length = 1 := by
    decide +kernel
  rw [Stage.run, Except.ok.injEq] at ran
  rw [ran, List.length_map] at one
  have equal := grouping.related_of_single one "k" List.mem_cons_self
  revert equal
  decide +kernel

end DocQuery

import DocQuery.Proofs.Execute.Groups
import DocQuery.Proofs.Value.NamedEntries
import Mathlib.Algebra.Ring.Int.Defs
import Mathlib.Data.List.Nodup

/-! # Grouping as a partition

A group stage has one document for every text that a key is written as, in the order in which the
texts first appear. What a group says is computed from the documents with that text alone.

* `membersOf`, `partsOf_eq` — the documents of one text; they are the parts of the stage.
* `Accumulator.summary`, `groupDocument_eq` — what an accumulator says, and the document of a group.
* `IsGroupOf` — what the document of a group says of its members.
* `group_partition` — the stage as a whole.
-/

namespace DocQuery

/-! ## First occurrences -/

section FirstOccurrences

variable {α : Type} [BEq α] [LawfulBEq α]

theorem eraseDups_concat (list : List α) (a : α) :
    (list ++ [a]).eraseDups = if a ∈ list then list.eraseDups else list.eraseDups ++ [a] := by
  rw [List.eraseDups_append, List.removeAll, List.filter_singleton]
  by_cases known : a ∈ list <;> simp [known, List.eraseDups_cons]

theorem nodup_eraseDups (list : List α) : list.eraseDups.Nodup := by
  induction list using List.reverseRecOn with
  | nil => simp
  | append_singleton list a ih =>
    rw [eraseDups_concat]
    split
    · exact ih
    · rename_i new
      exact ih.append (List.pairwise_singleton _ a)
        (List.disjoint_singleton.mpr fun known => new (List.mem_eraseDups.mp known))

end FirstOccurrences

/-! ## Members -/

section Parts

variable {α : Type} {written : α → String} {docs : List α} {d : α}

/-- The documents with one written key, in their order. -/
def membersOf (written : α → String) (docs : List α) (text : String) : List α :=
  docs.filter (written · == text)

theorem membersOf_concat (text : String) : membersOf written (docs ++ [d]) text =
    if written d == text then membersOf written docs text ++ [d]
    else membersOf written docs text := by
  rw [membersOf, List.filter_append, List.filter_singleton]
  cases written d == text <;> simp [membersOf]

theorem any_membersOf {text : String} (occurs : text ∈ docs.map written) :
    (membersOf written docs text).any (written · == written d) = (written d == text) := by
  obtain ⟨e, inside, rfl⟩ := List.mem_map.mp occurs
  rw [Bool.eq_iff_iff, List.any_eq_true]
  constructor
  · rintro ⟨x, member, same⟩
    have key := (List.mem_filter.mp member).2
    rw [beq_iff_eq] at key same ⊢
    exact same.symm.trans key
  · intro same
    exact ⟨e, List.mem_filter.mpr ⟨inside, beq_self_eq_true _⟩, by rw [beq_iff_eq.mp same]; simp⟩

/-- A document whose text is known joins the members of that text. -/
theorem joinPart_membersOf_of_mem {texts : List String} (different : texts.Nodup)
    (occur : ∀ text ∈ texts, text ∈ docs.map written) (known : written d ∈ texts) :
    joinPart written d (texts.map (membersOf written docs)) =
      texts.map (membersOf written (docs ++ [d])) := by
  induction texts with
  | nil => cases known
  | cons text rest ih =>
    rw [List.nodup_cons] at different
    rw [List.forall_mem_cons] at occur
    rw [List.map_cons, joinPart, any_membersOf occur.1, List.map_cons, membersOf_concat]
    split
    · rename_i here
      -- the other members stay, for no text occurs twice
      have others : rest.map (membersOf written docs) =
          rest.map (membersOf written (docs ++ [d])) := by
        refine List.map_congr_left fun other member => ?_
        have apart : (written d == other) = false := by
          rw [beq_iff_eq.mp here, beq_eq_false_iff_ne]
          exact fun same => different.1 (same ▸ member)
        rw [membersOf_concat, apart]
        rfl
      rw [others]
    · rename_i elsewhere
      have later : written d ∈ rest :=
        (List.mem_cons.mp known).resolve_left fun same => elsewhere (beq_iff_eq.mpr same)
      rw [ih different.2 occur.2 later]

/-- A document with a new text makes a part of its own, behind the others. -/
theorem joinPart_membersOf_of_notMem {texts : List String}
    (occur : ∀ text ∈ texts, text ∈ docs.map written) (new : written d ∉ texts) :
    joinPart written d (texts.map (membersOf written docs)) =
      texts.map (membersOf written (docs ++ [d])) ++ [[d]] := by
  induction texts with
  | nil => rfl
  | cons text rest ih =>
    rw [List.forall_mem_cons] at occur
    rw [List.mem_cons, not_or] at new
    have apart : (written d == text) = false := beq_eq_false_iff_ne.mpr new.1
    rw [List.map_cons, joinPart, any_membersOf occur.1, List.map_cons, membersOf_concat, apart,
      ih occur.2 new.2]
    rfl

theorem membersOf_eq_nil {text : String} (absent : text ∉ docs.map written) :
    membersOf written docs text = [] := by
  rw [membersOf, List.filter_eq_nil_iff]
  intro d member same
  exact absent (List.mem_map.mpr ⟨d, member, beq_iff_eq.mp same⟩)

/-- The parts of documents are the members of each text, by first occurrence of the texts. -/
theorem partsOf_eq (written : α → String) (docs : List α) :
    partsOf written docs = (docs.map written).eraseDups.map (membersOf written docs) := by
  induction docs using List.reverseRecOn with
  | nil => rfl
  | append_singleton docs d ih =>
    have occur : ∀ text ∈ (docs.map written).eraseDups, text ∈ docs.map written :=
      fun _ member => List.mem_eraseDups.mp member
    rw [partsOf_concat, ih, List.map_append, List.map_cons, List.map_nil, eraseDups_concat]
    split
    · rename_i known
      rw [← List.mem_eraseDups] at known
      exact joinPart_membersOf_of_mem (nodup_eraseDups _) occur known
    · rename_i new
      rw [joinPart_membersOf_of_notMem occur fun member => new (List.mem_eraseDups.mp member),
        List.map_append, List.map_cons, List.map_nil, membersOf_concat, membersOf_eq_nil new]
      simp

end Parts

/-! ## The document of a group -/

/-- What an accumulator says of some documents. -/
def Accumulator.summary (acc : Accumulator) (docs : List Document) : Value :=
  (docs.foldl (fun tally doc => tally.feed (Group.input doc acc)) (Tally.start acc)).result

theorem Accumulator.summary_count (docs : List Document) :
    count.summary docs = .int64 (Int64.ofNat docs.length) := by
  have counted (n : Nat) : docs.foldl (fun tally doc => tally.feed (Group.input doc .count))
      (Tally.count n) = Tally.count (n + docs.length) := by
    induction docs generalizing n with
    | nil => rfl
    | cons doc docs ih =>
      rw [List.foldl_cons, Tally.feed, ih, List.length_cons, Nat.add_right_comm, Nat.add_assoc]
  rw [summary, Tally.start, counted, Tally.result, Nat.zero_add]

namespace Group

variable {key : GroupKey} {outputs : List (String × Accumulator)}

/-- Every tally of a group is fed all documents, whatever the other tallies are. -/
theorem tallies_foldl_feed (docs : List Document) (g : Group)
    (tally : String × Accumulator → Tally) (now : g.tallies = outputs.map tally) :
    (docs.foldl (fun g doc => g.feed outputs doc) g).tallies =
      outputs.map fun output =>
        docs.foldl (fun tally doc => tally.feed (input doc output.2)) (tally output) := by
  induction docs generalizing g tally with
  | nil => exact now
  | cons doc docs ih =>
    refine ih (g.feed outputs doc) (fun output => (tally output).feed (input doc output.2)) ?_
    rw [feed, now, List.zipWith_map_right, List.zipWith_self]

theorem key_foldl_feed (docs : List Document) (g : Group) :
    (docs.foldl (fun g doc => g.feed outputs doc) g).key = g.key := by
  induction docs generalizing g with
  | nil => rfl
  | cons doc docs ih => rw [List.foldl_cons, ih]; rfl

end Group

/-- The document of a group has the key of the first document and what the accumulators say. -/
theorem groupDocument_eq (key : GroupKey) (outputs : List (String × Accumulator))
    (docs : List Document) :
    groupDocument key outputs docs =
      Document.ofList ((idField, docs.head?.elim .null key.value) ::
        outputs.map fun output => (output.1, output.2.summary docs)) := by
  have tallies := Group.tallies_foldl_feed docs
    (Group.start outputs (docs.head?.elim .null key.value)) (fun output => Tally.start output.2) rfl
  have entries : List.zip outputs (Group.gather key outputs docs).tallies =
      outputs.map fun output => (output, docs.foldl
        (fun tally doc => tally.feed (Group.input doc output.2)) (Tally.start output.2)) := by
    rw [Group.gather, tallies, List.zip, List.zipWith_map_right, List.zipWith_self]
  have inserted (list : List (String × Value)) (doc : Document) :
      list.foldl (fun doc entry => doc.insert entry.1 entry.2) doc =
        ⟨list.foldl (fun fields entry => Named.insert entry.1 entry.2 fields) doc.fields⟩ := by
    induction list generalizing doc with
    | nil => rfl
    | cons entry list ih => rw [List.foldl_cons, ih]; rfl
  have outcome := inserted (outputs.map fun output => (output.1, output.2.summary docs))
    (Document.empty.insert idField (docs.head?.elim .null key.value))
  rw [groupDocument, Group.toDocument, entries, Group.gather, Group.key_foldl_feed, List.foldl_map]
  rw [List.foldl_map] at outcome
  exact outcome

/-- What the document of a group says of the members: the key of the first one, for each output
what its accumulator says of all of them, and nothing else. -/
structure IsGroupOf (key : GroupKey) (outputs : List (String × Accumulator))
    (members : List Document) (group : Document) : Prop where
  id : group.id? = members.head?.map key.value
  output : ∀ output ∈ outputs, group.get? output.1 = some (output.2.summary members)
  nothingElse : ∀ name, name ≠ idField → name ∉ outputs.map (·.1) → group.get? name = none

variable {key : GroupKey} {outputs : List (String × Accumulator)} {docs members : List Document}

theorem isGroupOf_groupDocument (different : (outputs.map (·.1)).Nodup)
    (noId : idField ∉ outputs.map (·.1)) (nonempty : members ≠ []) :
    IsGroupOf key outputs members (groupDocument key outputs members) := by
  obtain ⟨first, rest, rfl⟩ := List.exists_cons_of_ne_nil nonempty
  let values : List (String × Value) :=
    outputs.map fun output => (output.1, output.2.summary (first :: rest))
  have names : values.map (·.1) = outputs.map (·.1) := by simp [values]
  have unique : (((idField, key.value first) :: values).map (·.1)).Nodup := by
    rw [List.map_cons, names, List.nodup_cons]
    exact ⟨noId, different⟩
  rw [groupDocument_eq]
  constructor
  · exact Named.get?_ofList_of_mem unique List.mem_cons_self
  · intro output member
    exact Named.get?_ofList_of_mem unique
      (List.mem_cons_of_mem _ (List.mem_map.mpr ⟨output, member, rfl⟩))
  · intro name other absent
    refine Named.get?_ofList_of_notMem ?_
    rw [List.map_cons, List.mem_cons, not_or]
    exact ⟨other, names ▸ absent⟩

/-- Without a key all documents make one group, which says what the accumulator says of them. -/
theorem map_get?_groupDocuments_constant (label : String) (acc : Accumulator)
    (docs : List Document) :
    (groupDocuments .constant [(label, acc)] docs).map (·.get? label) =
      if docs = [] then [] else [some (acc.summary docs)] := by
  rw [groupDocuments_eq, partsOf_of_same fun _ _ => rfl]
  split
  · rfl
  · have value : (groupDocument .constant [(label, acc)] docs).get? label =
        some (acc.summary docs) := by
      rw [groupDocument_eq]
      exact Named.get?_insert_self label _ _
    exact congrArg (fun found => [found]) value

theorem membersOf_ne_nil {text : String} (occurs : text ∈ docs.map key.written) :
    membersOf key.written docs text ≠ [] := by
  obtain ⟨doc, inside, same⟩ := List.mem_map.mp occurs
  exact List.ne_nil_of_mem (List.mem_filter.mpr ⟨inside, beq_iff_eq.mpr same⟩)

/-- The lengths of all parts add up, also as integers of 64 bits if those can count everything. -/
theorem sum_counts {parts : List (List Document)} (bound : parts.flatten.length < Number.twoTo 63) :
    ((parts.map fun part => Int64.ofNat part.length).map Int64.toInt).sum =
      parts.flatten.length := by
  induction parts with
  | nil => rfl
  | cons part rest ih =>
    rw [List.flatten_cons, List.length_append] at bound ⊢
    have first : (Int64.ofNat part.length).toInt = part.length :=
      Int64.toInt_ofNat_of_lt (Nat.lt_of_le_of_lt (Nat.le_add_right _ _) bound)
    have others := ih (Nat.lt_of_le_of_lt (Nat.le_add_left _ _) bound)
    rw [List.map_cons, List.map_cons, List.sum_cons, first, others, Int.natCast_add]

/--
A group stage has one document for each text of a key, by first occurrence. It is made of the
documents with that text, in their order; every document is among the members of exactly one group,
and the counts add up.
-/
theorem group_partition (key : GroupKey) (outputs : List (String × Accumulator))
    (different : (outputs.map (·.1)).Nodup) (noId : idField ∉ outputs.map (·.1))
    (docs : List Document) :
    let texts := (docs.map key.written).eraseDups
    ∃ groups, (Stage.group key outputs).run docs = .ok groups ∧
      List.Forall₂ (fun text => IsGroupOf key outputs (membersOf key.written docs text))
        texts groups ∧
      texts.Nodup ∧ (texts.map (membersOf key.written docs)).flatten.Perm docs ∧
      ∀ name, (name, .count) ∈ outputs → ∃ counts : List Int64,
        groups.map (·.get? name) = counts.map (some ∘ Value.int64) ∧
        (docs.length < Number.twoTo 63 → (counts.map Int64.toInt).sum = docs.length) := by
  intro texts
  have perm : (texts.map (membersOf key.written docs)).flatten.Perm docs :=
    partsOf_eq key.written docs ▸ (isGrouping_partsOf key.written docs).perm
  have isGroup : ∀ text ∈ texts, IsGroupOf key outputs (membersOf key.written docs text)
      (groupDocument key outputs (membersOf key.written docs text)) := fun text member =>
    isGroupOf_groupDocument different noId (membersOf_ne_nil (List.mem_eraseDups.mp member))
  refine ⟨texts.map fun text => groupDocument key outputs (membersOf key.written docs text),
    ?_, ?_, nodup_eraseDups _, perm, fun name counted => ?_⟩
  · rw [Stage.run, groupDocuments_eq, partsOf_eq, List.map_map]
    rfl
  · rw [List.forall₂_map_right_iff, List.forall₂_same]
    exact isGroup
  · refine ⟨(texts.map (membersOf key.written docs)).map fun part => Int64.ofNat part.length,
      ?_, perm.length_eq ▸ sum_counts⟩
    rw [List.map_map, List.map_map, List.map_map]
    refine List.map_congr_left fun text member => ?_
    rw [Function.comp_apply, (isGroup text member).output _ counted, Accumulator.summary_count]
    rfl

/-- Documents of one key with another one between them are counted and summed up together. -/
theorem group_partition_of_interleaved :
    ["n", "most"].Nodup ∧ idField ∉ ["n", "most"] ∧
    ∃ groups, (Stage.group (.fields ["k"]) [("n", .count), ("most", .max "v")]).run
        [⟨[("k", .string "a"), ("v", .int32 1)]⟩, ⟨[("v", .int64 9)]⟩,
          ⟨[("k", .string "a"), ("v", .int64 5)]⟩] = .ok groups ∧
      List.Forall₂ (IsGroupOf (.fields ["k"]) [("n", .count), ("most", .max "v")])
        [[⟨[("k", .string "a"), ("v", .int32 1)]⟩, ⟨[("k", .string "a"), ("v", .int64 5)]⟩],
          [⟨[("v", .int64 9)]⟩]] groups ∧
      ∃ counts : List Int64, groups.map (·.get? "n") = counts.map (some ∘ Value.int64) ∧
        (counts.map Int64.toInt).sum = 3 := by
  refine ⟨by decide, by decide, ?_⟩
  obtain ⟨groups, ran, parts, -, -, counted⟩ := group_partition (.fields ["k"])
    [("n", .count), ("most", .max "v")] (by decide) (by decide)
    [⟨[("k", .string "a"), ("v", .int32 1)]⟩, ⟨[("v", .int64 9)]⟩,
      ⟨[("k", .string "a"), ("v", .int64 5)]⟩]
  obtain ⟨counts, found, total⟩ := counted "n" (by decide)
  refine ⟨groups, ran, ?_, counts, found, total (by decide)⟩
  rw [← List.forall₂_map_left_iff (f := membersOf (GroupKey.fields ["k"]).written _)] at parts
  exact parts

end DocQuery
